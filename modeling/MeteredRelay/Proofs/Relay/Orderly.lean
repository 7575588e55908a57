import MeteredRelay.Proofs.Relay.Acts

/-!
# Every event keeps a relay in order

A relay is in order if its roster is and its addresses lead to connections that it has
(`Relay.Orderly`).  What is performed on its roster keeps it so if it fits the connections
(`Orderly.performs`), and what a message asks for fits, since messages come from connections that
there are (`Orderly.arrive`).  So every event keeps a relay in order (**`Orderly.step`**), and what
is said of rosters in order is said of every relay that runs.
-/

namespace MeteredRelay

namespace Relay

/-- The roster is in order, and addresses lead to connections that there are. -/
structure Orderly (r : Relay) : Prop where
  roster : r.roster.Orderly r.links.size
  addressed : ∀ address n, r.addresses.get? address = some n → n < r.links.size

variable {r r' : Relay} {env : Environment} {now : Moment} {n : LinkNo} {address : SocketAddress}
  {datagram input : Bytes} {size : Nat} {kind : Roster.Act → Prop}

lemma orderly_start : start.Orderly := ⟨Roster.orderly_empty, nofun⟩

/-- The acts of upkeep fit any connections. -/
lemma Routine.fits {a : Roster.Act} (h : Routine a) (links : Nat) : a.Fits links := by
  cases a with
  | bind | charge => exact h.elim
  | _ => trivial

namespace Orderly

lemma keeps (h : r.Orderly) (hk : Keeps r r') : r'.Orderly := by
  refine ⟨?_, ?_⟩
  · rw [hk.roster, hk.size]
    exact h.roster
  · rw [hk.addresses, hk.size]
    exact h.addressed

/-- Acts that fit are performed on the roster. -/
lemma performs (h : r.Orderly) (hp : Performs env now kind r r')
    (hfits : ∀ a, kind a → a.Fits r.links.size) : r'.Orderly := by
  refine ⟨?_, ?_⟩
  · rw [hp.size]
    exact hp.roster.keeps (P := (·.Orderly r.links.size))
      (fun a ha hr => hr.act now (hfits a ha)) h.roster
  · rw [hp.addresses, hp.size]
    exact h.addressed

lemma routine (h : r.Orderly) (hp : Performs env now Routine r r') : r'.Orderly :=
  h.performs hp fun _ ha => ha.fits _

/-- A connection that is added gets a number of its own. -/
lemma enroll (h : r.Orderly) (l : Link) :
    (r.enroll l).1.Orderly ∧ (r.enroll l).2 < (r.enroll l).1.links.size := by
  have hsize : (r.enroll l).1.links.size = r.links.size + 1 := Store.size_add ..
  refine ⟨⟨?_, ?_⟩, ?_⟩
  · rw [hsize]
    exact h.roster.mono (Nat.le_succ _)
  · intro address n hn
    rw [hsize]
    change (r.addresses.insert l.address r.links.size).get? address = some n at hn
    rw [Table.get?_insert] at hn
    split at hn
    · exact Nat.lt_succ_of_le (Nat.le_of_eq (Option.some.inj hn).symm)
    · exact Nat.lt_succ_of_lt (h.addressed address n hn)
  · rw [hsize]
    exact Nat.lt_succ_self _

/-! ## Datagrams -/

/-- A datagram belongs to a connection that there is. -/
lemma arrive (h : r.Orderly) {arrival : Arrival}
    (harrive : r.arrive env now address input = (r', arrival)) :
    r'.Orderly ∧ ∀ n, arrival = .message n → n < r'.links.size := by
  cases arrives_arrive harrive with
  | known hn hkeeps hfrom =>
      refine ⟨h.keeps hkeeps, fun m hm => ?_⟩
      rw [hfrom m hm, hkeeps.size]
      exact h.addressed address _ hn
  | new hnone hkeeps =>
      rcases h.enroll (.plain address now.instant) with ⟨henroll, hlt⟩
      refine ⟨henroll.keeps hkeeps, fun m hm => ?_⟩
      cases hm
      rwa [hkeeps.size]
  | waits hkeeps => exact ⟨h.keeps hkeeps, nofun⟩

/-- A message that was opened is handled by an orderly relay, for a connection that there is. -/
lemma openInput (h : r.Orderly) (hn : n < r.links.size)
    (hopen : r.openInput env n input = (r', some size)) :
    (r'.changeLink n (·.noteRead now.instant)).Orderly ∧
      n < (r'.changeLink n (·.noteRead now.instant)).links.size ∧ size = r'.desk.packet.size := by
  have hread := (keeps_openInput hopen).trans
    (keeps_changeLink (n := n) (f := (·.noteRead now.instant)))
  refine ⟨h.keeps hread, ?_, size_openInput hopen⟩
  rw [hread.size]
  exact hn

lemma receive (h : r.Orderly) : (r.receive env now address datagram).Orderly := by
  have hreceives := receives_receive env now r address datagram
  generalize r.receive env now address datagram = r' at hreceives ⊢
  cases hreceives with
  | ends harrive hkeeps => exact ((h.keeps keeps_take).arrive harrive).1.keeps hkeeps
  | handles harrive hopen =>
      rcases (h.keeps keeps_take).arrive harrive with ⟨ha, hlt⟩
      rcases ha.openInput (hlt _ rfl) hopen with ⟨hr, hlt, hsize⟩
      exact hr.performs (performs_handle hsize) fun a hasks => hasks.fits hlt

lemma greet (h : r.Orderly) : (r.greet env).Orderly := by
  have hgreets := greets_greet env r
  generalize r.greet env = r' at hgreets ⊢
  cases hgreets with
  | answers hkeeps => exact h.keeps hkeeps
  | begins _ hkeeps => exact (h.enroll _).1.keeps hkeeps

/-! ## Upkeep -/

lemma dropLink (h : r.Orderly) (address : SocketAddress) : (r.dropLink address).Orderly := by
  have hdrops := drops_dropLink r address
  generalize r.dropLink address = r' at hdrops ⊢
  cases hdrops with
  | none => exact h
  | some _ hroster hsize haddresses =>
      refine ⟨?_, fun other m hm => ?_⟩
      · rw [hroster, hsize]
        exact h.roster.leaveAll _
      · rw [haddresses, Table.get?_erase] at hm
        rw [hsize]
        split at hm
        · contradiction
        · exact h.addressed other m hm

lemma sweep (h : r.Orderly) : (r.sweep env now.instant).1.Orderly :=
  sweep_induction (fun _ address hr => hr.dropLink address) h

/-- **Every event keeps a relay in order.** -/
theorem step (h : r.Orderly) (e : Event) : (r.step env now e).Orderly := by
  cases e with
  | datagram sender data => exact h.receive
  | greet => exact h.greet
  | sweep => exact h.sweep
  | forgetPayments => exact h.routine (performs_forgetPayments env now)
  | listAll => exact h.routine performs_listAll
  | takeForced => exact h.routine (performs_takeForced env now)
  | listForced => exact h.routine performs_listForced

end Orderly

end Relay

end MeteredRelay
