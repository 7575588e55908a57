import MeteredRelay.Proofs.Relay.Turns

/-!
# What a connection was made for

On a listener that seals, a connection is made when a handshake is taken from the queue, and the
handshake had come in a datagram before.  The key is in the first bytes of this datagram, and the
same bytes are what the connection is pending on.  Whatever happens to the connection later, its
address and its key stay, and it is never pending on anything else (`Link.Follows`).  So the
datagram can be named for every connection, at every moment of a run: **`made_run`**.
-/

namespace MeteredRelay

/-- A connection later: it has its address and key, and is not pending on anything new. -/
structure Link.Follows (l l' : Link) : Prop where
  address : l'.address = l.address
  key : l'.key = l.key
  pending : ∀ ciphertext, l'.pending = some ciphertext → l.pending = some ciphertext

namespace Link.Follows

variable {l l' l'' : Link}

lemma refl (l : Link) : l.Follows l := ⟨rfl, rfl, fun _ => id⟩

lemma trans (h : l.Follows l') (h' : l'.Follows l'') : l.Follows l'' where
  address := h'.address.trans h.address
  key := h'.key.trans h.key
  pending ciphertext hpending := h.pending ciphertext (h'.pending ciphertext hpending)

/-- A connection that completes its handshake is pending on nothing. -/
lemma complete (l : Link) : l.Follows l.complete := ⟨rfl, rfl, nofun⟩

end Link.Follows

namespace Relay

/-- A connection was made for a handshake: the handshake had come in a datagram and was the first
in the queue when the server took it and made the connection. -/
structure MadeFor (env : Environment) (before : List (Moment × Event)) (now : Moment)
    (h : Handshake) (n : LinkNo) (l : Link) : Prop where
  came : ∃ t, (t, .datagram h.address h.data) ∈ before ∧ t.instant = h.received
  waits : (start.run env before).handshakes.head? = some h
  number : (start.run env before).links.size = n
  made : (start.run env (before ++ [(now, .greet)])).links.size = n + 1
  address : l.address = h.address
  long : MlKem.ciphertextSize ≤ h.data.length
  /-- The key is in the first bytes of the datagram. -/
  key : ∃ k, env.decapsulate (h.data.take MlKem.ciphertextSize) = .ok k ∧ l.key = some k
  pending : ∀ ciphertext, l.pending = some ciphertext →
    ciphertext = h.data.take MlKem.ciphertextSize

/-- A connection was made for a handshake in the course of a run. -/
def Made (env : Environment) (events : List (Moment × Event)) (n : LinkNo) (l : Link) : Prop :=
  ∃ before now h, before ++ [(now, .greet)] <+: events ∧ MadeFor env before now h n l

variable {env : Environment} {now : Moment} {r x : Relay} {n m : LinkNo} {l l' : Link} {e : Event}
  {address : SocketAddress} {events : List (Moment × Event)}

namespace Made

/-- A longer run has the same datagram in it. -/
lemma append (h : Made env events n l) (more : List (Moment × Event)) :
    Made env (events ++ more) n l := by
  rcases h with ⟨before, now, first, hprefix, hmade⟩
  exact ⟨before, now, first, hprefix.trans (List.prefix_append ..), hmade⟩

/-- What a connection was made for does not depend on what became of it. -/
lemma follows (h : Made env events n l) (hl : l.Follows l') : Made env events n l' := by
  rcases h with ⟨before, now, first, hprefix, hmade⟩
  refine ⟨before, now, first, hprefix, { hmade with
    address := hl.address.trans hmade.address
    key := ?_
    pending := fun c hc => hmade.pending c (hl.pending c hc) }⟩
  rw [hl.key]
  exact hmade.key

lemma exists_key (h : Made env events n l) : ∃ k, l.key = some k := by
  rcases h with ⟨before, now, first, hprefix, hmade⟩
  rcases hmade.key with ⟨k, -, hk⟩
  exact ⟨k, hk⟩

/-- A connection is never pending on more or less than the encapsulation of a key. -/
lemma length_of_pending (h : Made env events n l) {ciphertext : Bytes}
    (hpending : l.pending = some ciphertext) : ciphertext.length = MlKem.ciphertextSize := by
  rcases h with ⟨before, now, first, hprefix, hmade⟩
  rw [hmade.pending ciphertext hpending, List.length_take, Nat.min_eq_left hmade.long]

end Made

/-! ## Connections that there are -/

lemma follows_complete (hm : m < r.links.size) (n : LinkNo) :
    (r.link n).Follows ((r.changeLink m (·.complete)).link n) := by
  rw [link_complete hm]
  split
  · rename_i heq
    rw [heq]
    exact .complete _
  · exact .refl _

lemma follows_enroll (hn : n < r.links.size) (l : Link) :
    (r.link n).Follows ((r.enroll l).1.link n) := by
  rw [link_enroll, if_neg (Nat.ne_of_lt hn)]
  exact .refl _

/-- A connection that is dropped loses its entry in the table, and keeps its own address. -/
lemma follows_dropLink (hr : r.Labelled) (address : SocketAddress) (n : LinkNo) :
    (r.dropLink address).links.size = r.links.size ∧
      (r.link n).Follows ((r.dropLink address).link n) := by
  cases hm : r.addresses.get? address with
  | none =>
      rw [dropLink_of_none hm]
      exact ⟨rfl, .refl _⟩
  | some m =>
      rcases dropLink_of_some hm with ⟨roster, hdrop⟩
      rw [hdrop]
      exact ⟨Store.size_modify .., follows_complete (hr.lt_size address m hm) n⟩

lemma follows_sweep (hr : r.Labelled) (now : Moment) (n : LinkNo) :
    (r.sweep env now.instant).1.links.size = r.links.size ∧
      (r.link n).Follows ((r.sweep env now.instant).1.link n) := by
  refine hr.sweep_induction (motive := fun x => x.links.size = r.links.size ∧
    (r.link n).Follows (x.link n)) ?_ ⟨rfl, .refl _⟩
  rintro x address hx ⟨hsize, hfollows⟩
  rcases follows_dropLink hx address n with ⟨hsize', hfollows'⟩
  exact ⟨hsize'.trans hsize, hfollows.trans hfollows'⟩

lemma Steady.follows (h : Steady r x) (n : LinkNo) : (r.link n).Follows (x.link n) :=
  ⟨h.address n, h.key n, fun _ hpending => (h.pending n).symm.trans hpending⟩

lemma Turns.follows (ht : Turns env now r e x) (hr : r.Labelled) (hn : n < r.links.size) :
    (r.link n).Follows (x.link n) := by
  cases ht with
  | rests | queues | repeats | skips | answers => exact .refl _
  | founds => exact follows_enroll hn _
  | begins => exact follows_enroll hn _
  | completes hm => exact follows_complete (hr.lt_size _ _ hm) n
  | sweeps => exact (follows_sweep hr now n).2

/-- No connection gets lost. -/
lemma Turns.size_le (ht : Turns env now r e x) (hr : r.Labelled) :
    r.links.size ≤ x.links.size := by
  cases ht with
  | rests | queues | repeats | skips | answers => exact Nat.le_refl _
  | founds | begins =>
      have hsize (l : Link) : r.links.size ≤ (r.links.add l).size := by
        rw [Store.size_add]
        exact Nat.le_succ _
      exact hsize _
  | completes => exact keeps_changeLink.size.ge
  | sweeps => exact (follows_sweep hr now 0).1.ge

/-! ## New connections -/

/-- On a listener that seals, a new connection is begun by the first handshake that waits. -/
lemma Turns.begun_of_le (ht : Turns env now r e x) (hsealing : env.settings.encrypted = true)
    (hr : r.Labelled) (hold : r.links.size ≤ n) (hn : n < x.links.size) :
    n = r.links.size ∧ x.links.size = n + 1 ∧ e = .greet ∧
      ∃ h key, r.handshakes.head? = some h ∧
        env.decapsulate (h.data.take MlKem.ciphertextSize) = .ok key ∧ x.link n = begun h key := by
  cases ht with
  | rests | queues | repeats | skips | answers => exact absurd hn (Nat.not_lt.mpr hold)
  | founds hplain =>
      rw [hsealing] at hplain
      contradiction
  | completes =>
      have hlt : n < r.links.size := by rwa [← keeps_changeLink.size]
      exact absurd hlt (Nat.not_lt.mpr hold)
  | begins hwaits hnone hkey hanswers =>
      rename_i first rest key sent
      have hsize : ((r.beginLink first rest key).post sent).links.size = r.links.size + 1 :=
        Store.size_add ..
      rw [hsize] at hn ⊢
      have heq : n = r.links.size := Nat.le_antisymm (Nat.le_of_lt_succ hn) hold
      refine ⟨heq, by rw [heq], rfl, first, key, by rw [hwaits, List.head?_cons], hkey, ?_⟩
      exact (link_enroll ..).trans (if_pos heq)
  | sweeps =>
      rw [(follows_sweep hr now n).1] at hn
      exact absurd hn (Nat.not_lt.mpr hold)

/-- A sweep does not look at the queue, and sends nothing. -/
lemma same_sweep (r : Relay) (now : Moment) :
    (r.sweep env now.instant).1.handshakes = r.handshakes ∧
      (r.sweep env now.instant).1.outbox = r.outbox := by
  refine sweep_induction (motive := fun x => x.handshakes = r.handshakes ∧ x.outbox = r.outbox)
    (fun x address hx => ?_) ⟨rfl, rfl⟩
  cases hn : x.addresses.get? address with
  | none => rwa [dropLink_of_none hn]
  | some n =>
      rcases dropLink_of_some hn with ⟨roster, hdrop⟩
      rw [hdrop]
      exact hx

/-- A handshake that waits came in this datagram, or waited before. -/
lemma Turns.handshakes (ht : Turns env now r e x) {h : Handshake} (hh : h ∈ x.handshakes) :
    h ∈ r.handshakes ∨ (e = .datagram h.address h.data ∧ now.instant = h.received ∧
      MlKem.ciphertextSize ≤ h.data.length) := by
  cases ht with
  | rests | founds | completes | repeats => exact .inl hh
  | queues _ _ hlong =>
      rcases List.mem_append.mp hh with hold | hnew
      · exact .inl hold
      · obtain rfl := List.mem_singleton.mp hnew
        exact .inr ⟨rfl, rfl, hlong⟩
  | skips hwaits | answers hwaits | begins hwaits =>
      left
      rw [hwaits]
      exact List.mem_cons_of_mem _ hh
  | sweeps =>
      left
      rwa [(same_sweep r now).1] at hh

/-- A handshake that waits came in a datagram. -/
lemma came_run (env : Environment) (events : List (Moment × Event)) :
    ∀ h ∈ (start.run env events).handshakes, MlKem.ciphertextSize ≤ h.data.length ∧
      ∃ t, (t, .datagram h.address h.data) ∈ events ∧ t.instant = h.received := by
  refine turns_induction (motive := fun events r => ∀ h ∈ r.handshakes,
    MlKem.ciphertextSize ≤ h.data.length ∧
      ∃ t, (t, .datagram h.address h.data) ∈ events ∧ t.instant = h.received) nofun ?_ events
  intro before now e x hr ih hturns hsteady h hh
  rw [hsteady.handshakes] at hh
  rcases hturns.handshakes hh with hold | ⟨he, hnow, hlong⟩
  · rcases ih h hold with ⟨hlong, t, hcame, ht⟩
    exact ⟨hlong, t, List.mem_append_left _ hcame, ht⟩
  · rw [he]
    exact ⟨hlong, now, List.mem_append_right _ (List.mem_singleton_self _), hnow⟩

/-- **On a listener that seals, every connection was made for a handshake.** -/
theorem made_run (hsealing : env.settings.encrypted = true) (events : List (Moment × Event)) :
    ∀ n < (start.run env events).links.size, Made env events n ((start.run env events).link n) := by
  refine turns_induction (motive := fun events r => ∀ n < r.links.size,
    Made env events n (r.link n)) nofun ?_ events
  intro before now e x hr ih hturns hsteady n hn
  have hsize := hsteady.size
  rw [hsize] at hn
  by_cases hold : n < (start.run env before).links.size
  -- an old connection was made before and follows itself, a new one is begun by this event
  · have hfollows := (hturns.follows hr hold).trans (hsteady.follows n)
    exact ((ih n hold).follows hfollows).append _
  · rcases hturns.begun_of_le hsealing hr (Nat.le_of_not_lt hold) hn with
      ⟨hnumber, hone, rfl, first, key, hwaits, hkey, hbegun⟩
    rcases came_run env before first (List.mem_of_mem_head? hwaits) with ⟨hlong, hcame⟩
    have hmade : MadeFor env before now first n (x.link n) := by
      rw [hbegun]
      exact ⟨hcame, hwaits, hnumber.symm, hsize.trans hone, rfl, hlong, ⟨key, hkey, rfl⟩,
        fun c hc => (Option.some.inj hc).symm⟩
    exact Made.follows ⟨before, now, first, List.prefix_refl _, hmade⟩ (hsteady.follows n)

/-! ## Runs from any state -/

lemma Labelled.step (hr : r.Labelled) (env : Environment) (now : Moment) (e : Event) :
    (r.step env now e).Labelled := by
  rcases exists_turns env now r e with ⟨x, hturns, hsteady⟩
  exact (hr.turns hturns).steady hsteady

lemma Labelled.run (hr : r.Labelled) (env : Environment) (events : List (Moment × Event)) :
    (r.run env events).Labelled := by
  induction events generalizing r with
  | nil => exact hr
  | cons e es ih => exact ih (hr.step env e.1 e.2)

lemma follows_step (hr : r.Labelled) (hn : n < r.links.size) (env : Environment) (now : Moment)
    (e : Event) : n < (r.step env now e).links.size ∧
      (r.link n).Follows ((r.step env now e).link n) := by
  rcases exists_turns env now r e with ⟨x, hturns, hsteady⟩
  refine ⟨?_, (hturns.follows hr hn).trans (hsteady.follows n)⟩
  rw [hsteady.size]
  exact Nat.lt_of_lt_of_le hn (hturns.size_le hr)

/-- A connection keeps what it was made with. -/
lemma follows_run (hr : r.Labelled) (hn : n < r.links.size) (env : Environment)
    (events : List (Moment × Event)) : n < (r.run env events).links.size ∧
      (r.link n).Follows ((r.run env events).link n) := by
  induction events generalizing r with
  | nil => exact ⟨hn, .refl _⟩
  | cons e es ih =>
      rcases follows_step hr hn env e.1 e.2 with ⟨hlt, hfollows⟩
      rcases ih (hr.step env e.1 e.2) hlt with ⟨hlt', hfollows'⟩
      exact ⟨hlt', hfollows.trans hfollows'⟩

end Relay

end MeteredRelay
