import MeteredRelay.Proofs.Relay.Handshake.Keys
import MeteredRelay.Proofs.Relay.Processed

/-!
# Datagrams that come again

A datagram that was recorded on the way may be sent to the server a second time.  As long as no
window starts again, it is not processed a second time on the connection that it was processed on,
for its number is barred there.

But each connection has its own window.  Where a datagram of the same address is processed on
another connection, the first one was dropped by a sweep, and a handshake from the address made the
second one afterwards (`Rejoins`), with a key that opens the datagram too (**`replay_rejoins`**).
This can happen: the key is a function of the handshake, so who repeats the handshake gets the same
key and a new window, and may repeat all that followed (**`replay_after_sweep`**).
-/

namespace MeteredRelay

namespace Relay

variable {env : Environment} {now : Moment} {r : Relay} {n m : LinkNo} {p : PacketBuffer}
  {address : SocketAddress} {datagram : Bytes} {events : List (Moment × Event)} {k : Key}

/-! ## Keys -/

/-- The message in a datagram is what its connection's key opens. -/
lemma opened_of_message? (hkey : (r.link n).key = some k)
    (h : r.message? env now address datagram = some (n, p)) :
    env.cipher.opened k [] datagram = .ok p.bytes := by
  obtain ⟨x, opened, size, harrive, hopen, rfl⟩ := exists_of_message? h
  refine opened_of_openInput (r := x.take datagram) ?_ hopen
  show (x.link n).key = some k
  cases finds_arrive harrive with
  | established => exact hkey
  | completed => exact (view_changeLink (f := (·.complete)) (fun _ => rfl) r n n).trans hkey
  | founded =>
      rw [link_of_le (Nat.le_refl _)] at hkey
      contradiction

/-- On a listener that seals, a message comes from the connection of its address. -/
lemma addressed_of_message? (hsealing : env.settings.encrypted = true)
    (h : r.message? env now address datagram = some (n, p)) :
    r.addresses.get? address = some n := by
  obtain ⟨x, opened, size, harrive, -, -⟩ := exists_of_message? h
  cases finds_arrive harrive with
  | established hn | completed hn => exact hn
  | founded hplain =>
      rw [hsealing] at hplain
      contradiction

/-! ## Where an address leads -/

/-- Where an address leads after an event, on a listener that seals. -/
inductive Leads (env : Environment) (r : Relay) (address : SocketAddress) :
    Event → Relay → Prop where
  | stays {e : Event} {x : Relay} (hsame : x.addresses.get? address = r.addresses.get? address) :
      Leads env r address e x
  | drops {x : Relay} (hnone : x.addresses.get? address = none) : Leads env r address .sweep x
  | begins {x : Relay} {h : Handshake} {key : Key} (hnone : r.addresses.get? address = none)
      (hwaits : r.handshakes.head? = some h) (haddress : h.address = address)
      (hkey : env.decapsulate (h.data.take MlKem.ciphertextSize) = .ok key)
      (hlt : r.links.size < x.links.size) (hlink : (x.link r.links.size).key = some key)
      (hsome : x.addresses.get? address = some r.links.size) : Leads env r address .greet x

lemma get?_sweep (r : Relay) (address : SocketAddress) :
    (r.sweep env now.instant).1.addresses.get? address = r.addresses.get? address ∨
      (r.sweep env now.instant).1.addresses.get? address = none := by
  refine sweep_induction (motive := fun x => x.addresses.get? address = r.addresses.get? address ∨
    x.addresses.get? address = none) (fun x other hx => ?_) (.inl rfl)
  cases hn : x.addresses.get? other with
  | none => rwa [dropLink_of_none hn]
  | some n =>
      obtain ⟨roster, hdrop⟩ := dropLink_of_some hn
      rw [hdrop]
      dsimp only
      rw [Table.get?_erase]
      split
      · exact .inr rfl
      · exact hx

lemma leads_step (hsealing : env.settings.encrypted = true) (now : Moment) (r : Relay)
    (address : SocketAddress) (e : Event) : Leads env r address e (r.step env now e) := by
  rcases exists_turns env now r e with ⟨x, hturns, hsteady⟩
  suffices hx : Leads env r address e x by
    cases hx with
    | stays hsame => exact .stays (by rw [hsteady.addresses, hsame])
    | drops hnone => exact .drops (by rw [hsteady.addresses, hnone])
    | begins hnone hwaits haddress hkey hlt hlink hsome =>
        exact .begins hnone hwaits haddress hkey (by rwa [hsteady.size])
          ((hsteady.key _).trans hlink) (by rw [hsteady.addresses, hsome])
  cases hturns with
  | rests | queues | repeats | skips | answers | completes => exact .stays rfl
  | founds hplain =>
      rw [hsealing] at hplain
      contradiction
  | begins hwaits hnone hkey hanswers =>
      rename_i first rest key sent
      have hget : ((r.beginLink first rest key).post sent).addresses.get? address =
          if first.address = address then some r.links.size else r.addresses.get? address :=
        Table.get?_insert ..
      have hsize : ((r.beginLink first rest key).post sent).links.size = r.links.size + 1 :=
        Store.size_add ..
      have hbegun : ((r.beginLink first rest key).post sent).link r.links.size = begun first key :=
        (link_enroll ..).trans (if_pos rfl)
      split at hget
      · rename_i haddress
        exact .begins (haddress ▸ hnone) (by rw [hwaits, List.head?_cons]) haddress hkey
          (by rw [hsize]; exact Nat.lt_succ_self _) (by rw [hbegun]; rfl) hget
      · exact .stays hget
  | sweeps =>
      rcases get?_sweep r address with hsame | hnone
      · exact .stays hsame
      · exact .drops hnone

/-- A connection that an address does not lead to any more was dropped by a sweep. -/
lemma exists_drop (hsealing : env.settings.encrypted = true)
    (hn : r.addresses.get? address = some n)
    (hend : (r.run env events).addresses.get? address ≠ some n) :
    ∃ before t after, events = before ++ (t, .sweep) :: after ∧
      (r.run env before).addresses.get? address = some n ∧
      (r.run env (before ++ [(t, .sweep)])).addresses.get? address = none := by
  induction events generalizing r with
  | nil => exact absurd hn hend
  | cons first es ih =>
      rcases first with ⟨t, e⟩
      by_cases hstep : (r.step env t e).addresses.get? address = some n
      · obtain ⟨before, u, after, rfl, hheld, hnone⟩ := ih hstep hend
        exact ⟨(t, e) :: before, u, after, rfl, hheld, hnone⟩
      · have hleads := leads_step hsealing t r address e
        generalize hx : r.step env t e = x at hleads hstep
        cases hleads with
        | stays hsame => exact absurd (hsame.trans hn) hstep
        | drops hnone =>
            refine ⟨[], t, es, rfl, hn, ?_⟩
            rw [List.nil_append, run_cons, hx]
            exact hnone
        | begins hnone =>
            rw [hn] at hnone
            contradiction

/-- A connection that an address comes to lead to was made for a handshake from it. -/
lemma exists_begin (hsealing : env.settings.encrypted = true) (hr : r.Labelled)
    (hn : r.addresses.get? address ≠ some n)
    (hend : (r.run env events).addresses.get? address = some n) :
    ∃ before t after h key, events = before ++ (t, .greet) :: after ∧
      (r.run env before).handshakes.head? = some h ∧ h.address = address ∧
      env.decapsulate (h.data.take MlKem.ciphertextSize) = .ok key ∧
      (r.run env before).links.size = n ∧ ((r.run env events).link n).key = some key := by
  induction events generalizing r with
  | nil => exact absurd hend hn
  | cons first es ih =>
      rcases first with ⟨t, e⟩
      have hstepped := hr.step env t e
      by_cases hstep : (r.step env t e).addresses.get? address = some n
      · have hleads := leads_step hsealing t r address e
        generalize hx : r.step env t e = x at hleads hstep hstepped
        cases hleads with
        | stays hsame => exact absurd (hsame.symm.trans hstep) hn
        | drops hnone =>
            rw [hstep] at hnone
            contradiction
        | begins hnone hwaits haddress hkey hlt hlink hsome =>
            rename_i h key
            obtain rfl : r.links.size = n := Option.some.inj (hsome.symm.trans hstep)
            refine ⟨[], t, es, h, key, rfl, hwaits, haddress, hkey, rfl, ?_⟩
            rw [run_cons, hx, (follows_run hstepped hlt env es).2.key]
            exact hlink
      · obtain ⟨before, u, after, h, key, rfl, hwaits, haddress, hkey, hsize, hlink⟩ :=
          ih hstepped hstep hend
        exact ⟨(t, e) :: before, u, after, h, key, rfl, hwaits, haddress, hkey, hsize, hlink⟩

/-! ## Replays -/

/-- In the course of a run a sweep drops the connection `n` of an address, and later a handshake from
this address makes the connection `m`, which gets its key. -/
inductive Rejoins (env : Environment) (r : Relay) (address : SocketAddress) (n m : LinkNo)
    (key : Key) : List (Moment × Event) → Prop where
  | intro {before between after : List (Moment × Event)} {swept greeted : Moment} {h : Handshake}
      (hheld : (r.run env before).addresses.get? address = some n)
      (hdropped : (r.run env (before ++ [(swept, .sweep)])).addresses.get? address = none)
      (hwaits : (r.run env (before ++ (swept, .sweep) :: between)).handshakes.head? = some h)
      (haddress : h.address = address)
      (hkey : env.decapsulate (h.data.take MlKem.ciphertextSize) = .ok key)
      (hmade : (r.run env (before ++ (swept, .sweep) :: between)).links.size = m) :
      Rejoins env r address n m key
        (before ++ (swept, .sweep) :: (between ++ (greeted, .greet) :: after))

/-- Where no window starts again, the same bytes are not processed twice on one connection. -/
lemma ne_of_processed {between : List (Moment × Event)} {t u : Moment} (hr : r.Orderly)
    (hlabelled : r.Labelled) (hlt : n < r.links.size) (hkey : (r.link n).key = some k)
    (hfirst : r.processedOn? env t address datagram = some n)
    (hwraps : (r.step env t (.datagram address datagram)).wrapsIn env
      (between ++ [(u, .datagram address datagram)]) = false)
    (hsecond : ((r.step env t (.datagram address datagram)).run env between).processedOn? env u
      address datagram = some m) : n ≠ m := by
  rintro rfl
  obtain ⟨p, hp, hheaderp, hacceptp⟩ := processedOn?_eq_some_iff.mp hfirst
  have hbars := bars_of_processed hr hp hheaderp hacceptp
  have hstepped : (r.step env t (.datagram address datagram)).Orderly := hr.step _
  obtain ⟨hlt', hfollows⟩ := follows_step hlabelled hlt env t (.datagram address datagram)
  have hkept := hfollows.key.trans hkey
  have hlabelled' := hlabelled.step env t (.datagram address datagram)
  generalize r.step env t (.datagram address datagram) = x at *
  rw [wrapsIn_append, Bool.or_eq_false_iff, wrapsIn_cons_eq_false] at hwraps
  obtain ⟨hwraps, hlast, -⟩ := hwraps
  obtain ⟨q, hq, hheaderq, hacceptq⟩ := processedOn?_eq_some_iff.mp hsecond
  -- the connection still has its key, so both times the same message was in the datagram
  have hkeyq := (follows_run hlabelled' hlt' env between).2.key.trans hkept
  have hbytes : p.bytes = q.bytes :=
    Except.ok.inj ((opened_of_message? hkey hp).symm.trans (opened_of_message? hkeyq hq))
  have hbarred := bars_run hstepped hbars hwraps
  rw [PacketBuffer.sequence_congr hbytes hheaderp] at hbarred
  rw [PackedWindow.isSome_accept?] at hacceptq
  have hwrap := hbarred.wraps hacceptq
  simp only [wrapsAt, hq, hheaderq, Bool.true_and] at hlast
  rw [hwrap] at hlast
  contradiction

/-- An address that leads to another connection than before has rejoined. -/
lemma exists_rejoins (hsealing : env.settings.encrypted = true) (hr : r.Labelled)
    (hn : r.addresses.get? address = some n) (hne : n ≠ m)
    (hm : (r.run env events).addresses.get? address = some m) :
    ∃ key, ((r.run env events).link m).key = some key ∧ Rejoins env r address n m key events := by
  have hleft : (r.run env events).addresses.get? address ≠ some n := by
    rw [hm]
    exact fun h => hne (Option.some.inj h).symm
  obtain ⟨before, swept, rest, rfl, hheld, hdropped⟩ := exists_drop hsealing hn hleft
  have hlabelled := hr.run env (before ++ [(swept, .sweep)])
  have hrest : r.run env (before ++ (swept, .sweep) :: rest) =
      (r.run env (before ++ [(swept, .sweep)])).run env rest := by
    rw [← run_append, List.append_assoc, List.singleton_append]
  rw [hrest] at hm ⊢
  obtain ⟨between, greeted, after, h, key, rfl, hwaits, haddress, hkey, hmade, hlink⟩ :=
    exists_begin hsealing hlabelled (by rw [hdropped]; nofun) hm
  refine ⟨key, hlink, .intro hheld hdropped (h := h) ?_ haddress hkey ?_⟩ <;>
    rw [← List.singleton_append, ← List.append_assoc, run_append] <;> assumption

/-- **On one connection nothing is processed twice.**  Let a listener that seals process the same
bytes from one address twice in a run in which no window starts again.  Then it processes them on
two connections: a sweep dropped the first one in between, and after that a handshake from the
address made the second one, with a key that opens these bytes as the key of the first one does. -/
theorem replay_rejoins (env : Environment) (hsealing : env.settings.encrypted = true)
    (before between : List (Moment × Event)) (t u : Moment) (address : SocketAddress)
    (datagram : Bytes)
    (hwraps : start.wrapsIn env (before ++ (t, .datagram address datagram) ::
      (between ++ [(u, .datagram address datagram)])) = false)
    {n m : LinkNo}
    (hfirst : (start.run env before).processedOn? env t address datagram = some n)
    (hsecond : (start.run env (before ++ (t, .datagram address datagram) :: between)).processedOn?
      env u address datagram = some m) :
    n ≠ m ∧ ∃ k l a b, ((start.run env before).link n).key = some k ∧
      ((start.run env (before ++ (t, .datagram address datagram) :: between)).link m).key = some l ∧
      env.cipher.opened k [] datagram = .ok a ∧ env.cipher.opened l [] datagram = .ok b ∧
      Rejoins env (start.run env (before ++ [(t, .datagram address datagram)])) address n m l
        between := by
  rw [run_append, run_cons] at hsecond ⊢
  rw [wrapsIn_append, Bool.or_eq_false_iff, wrapsIn_cons_eq_false] at hwraps
  have hlabelled := labelled_run env before
  obtain ⟨p, hp, -, -⟩ := processedOn?_eq_some_iff.mp hfirst
  obtain ⟨q, hq, -, -⟩ := processedOn?_eq_some_iff.mp hsecond
  have hheld := addressed_of_message? hsealing hp
  have hlt := hlabelled.lt_size address n hheld
  obtain ⟨k, hk⟩ := (made_run hsealing before n hlt).exists_key
  have hne := ne_of_processed (Reachable.start.run before).orderly hlabelled hlt hk hfirst
    hwraps.2.2 hsecond
  -- the datagram itself does not make its address lead elsewhere
  have hstill : ((start.run env before).step env t (.datagram address datagram)).addresses.get?
      address = some n := by
    have hleads := leads_step hsealing t (start.run env before) address (.datagram address datagram)
    cases hleads with
    | stays hsame => exact hsame.trans hheld
  obtain ⟨l, hl, hrejoins⟩ := exists_rejoins hsealing
    (hlabelled.step env t (.datagram address datagram)) hstill hne (addressed_of_message? hsealing hq)
  refine ⟨hne, k, l, p.bytes, q.bytes, hk, hl, opened_of_message? hk hp,
    opened_of_message? hl hq, ?_⟩
  rw [run_append]
  exact hrejoins

/-- A handshake of zeros is answered. -/
def knocks (t : Moment) : List (Moment × Event) :=
  [(t, .datagram default (List.replicate MlKem.ciphertextSize 0)), (t, .greet)]

/-- A sealed ping. -/
def homePing : Bytes :=
  xchacha20Poly1305.sealed default default []
    (Frame.encode ⟨PeerId.server, ⟨1⟩, 1, (Command.ping [65]).data⟩)

/-- A moment by which a client was silent for too long. -/
def late : Moment := (default : Moment).after (Span.seconds 61)

/-- The silent client is dropped and repeats its handshake. -/
def returns : List (Moment × Event) := (late, .sweep) :: knocks late

/-- The events up to the second time that the ping comes. -/
def pingedTwice : List (Moment × Event) :=
  knocks default ++ (default, .datagram default homePing) ::
    (returns ++ [(late, .datagram default homePing)])

lemma processed_twice : start.wrapsIn sealingServer pingedTwice = false ∧
    (start.run sealingServer (knocks default)).processedOn? sealingServer default default
      homePing = some 0 ∧
    processedOn? sealingServer late (start.run sealingServer
      (knocks default ++ (default, .datagram default homePing) :: returns)) default homePing =
        some 1 := by
  decide +kernel

/-- The same ping is processed on the first connection and, after the handshake was repeated, on the
second one. -/
theorem replay_rejoins_ping :
    sealingServer.settings.encrypted = true ∧ start.wrapsIn sealingServer pingedTwice = false ∧
      ∃ key, Rejoins sealingServer
        (start.run sealingServer (knocks default ++ [(default, .datagram default homePing)]))
        default 0 1 key returns := by
  have hsealing : sealingServer.settings.encrypted = true := rfl
  obtain ⟨hwraps, hfirst, hsecond⟩ := processed_twice
  obtain ⟨-, -, key, -, -, -, -, -, -, hrejoins⟩ := replay_rejoins sealingServer hsealing
    (knocks default) returns default late default homePing hwraps hfirst hsecond
  exact ⟨hsealing, hwraps, key, hrejoins⟩

/-- **A datagram may be processed again**, on a connection that was made by the same handshake after
the first one was dropped.  The server answers the ping both times. -/
theorem replay_after_sweep :
    sealingServer.settings.encrypted = true ∧ start.wrapsIn sealingServer pingedTwice = false ∧
      (start.run sealingServer (knocks default)).processedOn? sealingServer default default
        homePing = some 0 ∧
      processedOn? sealingServer late (start.run sealingServer
        (knocks default ++ (default, .datagram default homePing) :: returns)) default homePing =
          some 1 ∧
      ((start.run sealingServer pingedTwice).outbox.filter (·.origin = .server)).map (·.link) =
        [0, 1] := by
  obtain ⟨hwraps, hfirst, hsecond⟩ := processed_twice
  exact ⟨rfl, hwraps, hfirst, hsecond, by decide +kernel⟩

end Relay

end MeteredRelay
