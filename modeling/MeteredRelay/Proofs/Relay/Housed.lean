import MeteredRelay.Proofs.Relay.Reachable
import MeteredRelay.Proofs.Roster.Lasting

/-!
# Whoever is bound has a connection with an address

A peer is bound on the connection that its join came through, and that has an address then.  A
connection loses its address only when it is dropped, and with it go all bindings that it held
(`link_ne_of_leaveAll`).  So the bindings of a relay that runs are on connections with addresses
(**`Reachable.housed`**).
-/

namespace MeteredRelay

namespace Roster

variable {r : Roster} {link : LinkNo} {peer : PeerId} {seat : Seat} {b : Binding}

lemma joined_leave_self : (r.leave link peer).1.joined.get? ⟨link, peer⟩ = none := by
  cases hb : r.joined.get? ⟨link, peer⟩ with
  | none => rw [leave_of_none hb, hb]
  | some b =>
      simp only [leave, hb]
      rw [joined_remove, Table.get?_erase, if_pos rfl]

/-- Whoever is told to leave, and everybody who was gone before, is gone in the end. -/
lemma joined_foldl_leave {peers : List PeerId}
    (h : peer ∈ peers ∨ r.joined.get? ⟨link, peer⟩ = none) :
    (peers.foldl (fun r peer => (r.leave link peer).1) r).joined.get? ⟨link, peer⟩ = none := by
  induction peers generalizing r with
  | nil => exact h.resolve_left List.not_mem_nil
  | cons first peers ih =>
      refine ih ?_
      by_cases hpeer : peer ∈ peers
      · exact .inl hpeer
      right
      by_cases hfirst : peer = first
      · rw [hfirst]
        exact joined_leave_self
      · have hnone := h.resolve_left (by simp [hfirst, hpeer])
        rw [Option.eq_none_iff_forall_ne_some]
        intro b hb
        rw [joined_of_leave hb] at hnone
        contradiction

/-- Nobody is bound any more through a connection that everybody left. -/
lemma link_ne_of_leaveAll (hb : (r.leaveAll link).joined.get? seat = some b) :
    seat.link ≠ link := by
  rintro rfl
  suffices hnone : (r.leaveAll seat.link).joined.get? seat = none by
    rw [hnone] at hb
    contradiction
  refine joined_foldl_leave ?_
  by_cases hkey : seat ∈ r.joined.keys
  · exact .inl (List.mem_map.mpr ⟨seat, List.mem_filter.mpr ⟨hkey, by simp⟩, rfl⟩)
  · exact .inr (Table.find_eq_none_iff.mpr hkey)

end Roster

namespace Relay

variable {r r' : Relay} {env : Environment} {now : Moment} {n : LinkNo} {address : SocketAddress}
  {datagram input : Bytes} {kind : Roster.Act → Prop}

/-- A connection has an address. -/
def HasAddress (r : Relay) (n : LinkNo) : Prop := ∃ address, r.addresses.get? address = some n

/-- The connections that know bindings have addresses. -/
def Housed (r : Relay) : Prop :=
  ∀ seat b, r.roster.joined.get? seat = some b → r.HasAddress seat.link

lemma housed_start : start.Housed := nofun

namespace Housed

lemma keeps (h : r.Housed) (hk : Keeps r r') : r'.Housed := by
  intro seat b hb
  rw [hk.roster] at hb
  rw [HasAddress, hk.addresses]
  exact h seat b hb

/-- Acts that bind on connections with addresses are performed on the roster. -/
lemma performs (h : r.Housed) (hr : r.roster.Sound) (hp : Performs env now kind r r')
    (hbinds : ∀ link peer g, kind (.bind link peer g) → r.HasAddress link) : r'.Housed := by
  have hall : r'.roster.Sound ∧ ∀ seat b, r'.roster.joined.get? seat = some b →
      r.HasAddress seat.link := by
    refine hp.roster.keeps (P := fun x => x.Sound ∧ ∀ seat b, x.joined.get? seat = some b →
      r.HasAddress seat.link) ?_ ⟨hr, h⟩
    rintro x a ha ⟨hx, hhoused⟩
    have hx' : (x.act env now a).Sound := Roster.sound_act now a hx
    refine ⟨hx', fun seat b hb => ?_⟩
    obtain rfl : b.seat = seat := (hx'.joined_iff.mp hb).2
    rcases Roster.joined_act hx hb with hb | ⟨g, rfl, -⟩
    · exact hhoused _ b hb
    · exact hbinds b.link b.peer g ha
  intro seat b hb
  rw [HasAddress, hp.addresses]
  exact hall.2 seat b hb

lemma routine (h : r.Housed) (hr : r.roster.Sound) (hp : Performs env now Routine r r') :
    r'.Housed :=
  h.performs hr hp fun _ _ _ ha => ha.elim

/-- A connection that is added for an address that has none takes nobody's address. -/
lemma enroll (h : r.Housed) {l : Link} (hnone : r.addresses.get? l.address = none) :
    (r.enroll l).1.Housed := by
  intro seat b hb
  rcases h seat b hb with ⟨address, haddress⟩
  refine ⟨address, ?_⟩
  show (r.addresses.insert l.address r.links.size).get? address = _
  rw [Table.get?_insert, if_neg, haddress]
  rintro rfl
  rw [hnone] at haddress
  contradiction

/-! ## Datagrams -/

/-- A datagram comes from a connection with an address. -/
lemma arrive (h : r.Housed) {arrival : Arrival}
    (harrive : r.arrive env now address input = (r', arrival)) :
    r'.Housed ∧ ∀ n, arrival = .message n → r'.HasAddress n := by
  cases arrives_arrive harrive with
  | known hn hkeeps hfrom =>
      refine ⟨h.keeps hkeeps, fun m hm => ⟨address, ?_⟩⟩
      rw [hfrom m hm, hkeeps.addresses]
      exact hn
  | new hnone hkeeps =>
      refine ⟨(h.enroll (l := .plain address now.instant) hnone).keeps hkeeps, fun m hm => ?_⟩
      cases hm
      refine ⟨address, ?_⟩
      rw [hkeeps.addresses]
      exact (Table.get?_insert ..).trans (if_pos rfl)
  | waits hkeeps => exact ⟨h.keeps hkeeps, nofun⟩

lemma receive (h : r.Housed) (hr : r.roster.Sound) :
    (r.receive env now address datagram).Housed := by
  have hreceives := receives_receive env now r address datagram
  generalize r.receive env now address datagram = r' at hreceives ⊢
  cases hreceives with
  | ends harrive hkeeps => exact ((h.keeps keeps_take).arrive harrive).1.keeps hkeeps
  | handles harrive hopen =>
      rename_i arrived opened n size
      rcases (h.keeps keeps_take).arrive harrive with ⟨ha, hfrom⟩
      have hread : Keeps arrived (opened.changeLink n (·.noteRead now.instant)) :=
        (keeps_openInput hopen).trans keeps_changeLink
      have hsize := size_openInput hopen
      refine (ha.keeps hread).performs ?_ (performs_handle hsize) ?_
      · rw [hread.roster, roster_arrive harrive]
        exact hr
      · intro link peer g hasks
        rw [HasAddress, hread.addresses, hasks.1]
        exact hfrom n rfl

lemma greet (h : r.Housed) : (r.greet env).Housed := by
  have hgreets := greets_greet env r
  generalize r.greet env = r' at hgreets ⊢
  cases hgreets with
  | answers hkeeps => exact h.keeps hkeeps
  | begins hnone hkeeps => exact (h.enroll hnone).keeps hkeeps

/-! ## Upkeep -/

/-- A connection that is dropped loses its address and everybody it held. -/
lemma dropLink (h : r.Housed) (address : SocketAddress) : (r.dropLink address).Housed := by
  have hdrops := drops_dropLink r address
  generalize r.dropLink address = r' at hdrops ⊢
  cases hdrops with
  | none => exact h
  | some hn hroster _ haddresses =>
      intro seat b hb
      rw [hroster] at hb
      rcases h seat b (Roster.joined_of_leaveAll hb) with ⟨other, hother⟩
      refine ⟨other, ?_⟩
      rw [haddresses, Table.get?_erase, if_neg, hother]
      rintro rfl
      exact Roster.link_ne_of_leaveAll hb (Option.some.inj (hother.symm.trans hn))

lemma sweep (h : r.Housed) : (r.sweep env now.instant).1.Housed :=
  sweep_induction (fun _ address hr => hr.dropLink address) h

lemma step (h : r.Housed) (hr : r.roster.Sound) (e : Event) : (r.step env now e).Housed := by
  cases e with
  | datagram sender data => exact h.receive hr
  | greet => exact h.greet
  | sweep => exact h.sweep
  | forgetPayments => exact h.routine hr (performs_forgetPayments env now)
  | listAll => exact h.routine hr performs_listAll
  | takeForced => exact h.routine hr (performs_takeForced env now)
  | listForced => exact h.routine hr performs_listForced

end Housed

/-- **In every relay that is reached, whoever is bound has a connection with an address.** -/
theorem Reachable.housed (h : Reachable env r) : r.Housed := by
  induction h with
  | start => exact housed_start
  | step now e h ih => exact ih.step h.orderly.roster.sound e
  | reading now address datagram h harrive hopen ih =>
      exact ((ih.keeps keeps_take).arrive harrive).1.keeps
        ((keeps_openInput hopen).trans keeps_changeLink)

end Relay

end MeteredRelay
