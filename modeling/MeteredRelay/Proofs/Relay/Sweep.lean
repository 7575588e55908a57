import MeteredRelay.Proofs.Relay.Housed
import MeteredRelay.Proofs.Relay.PassOn
import MeteredRelay.Proofs.Relay.Turns
import MeteredRelay.Proofs.Roster.Leaving

/-!
# Whom a sweep drops

A sweep looks for connections that were silent for too long or misbehaved too often (`Stale`),
writes their addresses down and then drops one after the other.  The connections may have peers in
the same sessions, and a session may be emptied by the last of them only, but what all of them leave
is left at once (`Roster.Leaves.trans`).

**`sweep_drops_stale`** says that nobody is forgotten and nobody else is touched (`Swept`): the
addresses that are left are those of the other connections, every binding that is left is on a
connection with an address, and the other connections, their bindings, the bans and the accounts are
as they were.
-/

namespace MeteredRelay

namespace Table

variable {κ α : Type} [DecidableEq κ]

/-- A key is sifted out with others. -/
lemma filter_erase (t : Table κ α) (k : κ) (ks : List κ) :
    ((t.erase k).filter fun a _ => !ks.contains a) = t.filter fun a _ => !(k :: ks).contains a := by
  refine Table.ext ((List.filter_filter ..).trans (List.filter_congr fun e _ => ?_))
  by_cases hk : e.1 = k <;> simp [hk]

end Table

namespace Relay

variable {env : Environment} {now : Instant} {r r' : Relay} {n : LinkNo} {address : SocketAddress}
  {addresses : List SocketAddress} {l : Link}

/-! ## Stale connections -/

/-- A connection was last read longer ago than is allowed, or misbehaved too often. -/
def Stale (env : Environment) (now : Instant) (l : Link) : Prop :=
  (∃ t, l.lastRead.load = some t ∧ t + env.settings.maxPingInterval < now) ∨
    env.settings.maxBanScore ≤ l.banScore

/-- The server drops connections that are stale. -/
lemma stale_iff : Stale env now l ↔ (staleness env now l).isSome = true := by
  have hsilent : env.settings.maxPingInterval < l.silence now ↔
      ∃ t, l.lastRead.load = some t ∧ t + env.settings.maxPingInterval < now := by
    rw [Link.silence, Instant.since]
    cases l.lastRead.load with
    | none => simp
    | some t =>
        simp only [Option.getD_some, Option.some.injEq, exists_eq_left']
        rw [← Int.ofNat_lt]
        unfold Span Instant at *
        omega
  rw [Stale, ← hsilent, staleness]
  split
  · rename_i hlong
    simp [hlong]
  · rename_i hlong
    split
    · rename_i hscore
      simp [hscore]
    · rename_i hscore
      simp [hlong, hscore]

instance : DecidablePred (Stale env now) := fun _ => decidable_of_iff _ stale_iff.symm

lemma mem_staleAddresses : address ∈ r.staleAddresses env now ↔
    ∃ n, r.addresses.get? address = some n ∧ Stale env now (r.link n) := by
  simp only [staleAddresses, List.mem_map, List.mem_filter, ← stale_iff, Prod.exists,
    exists_and_right, exists_eq_right, Table.get?_eq_some_iff]

/-! ## Connections that are dropped -/

lemma addresses_dropLink : (r.dropLink address).addresses = r.addresses.erase address := by
  cases hn : r.addresses.get? address with
  | none => rw [dropLink_of_none hn, Table.erase_of_none hn]
  | some n =>
      obtain ⟨roster, hdrop⟩ := dropLink_of_some hn
      rw [hdrop]

lemma roster_dropLink (hn : r.addresses.get? address = some n) :
    (r.dropLink address).roster = r.roster.leaveAll n := by
  simp only [dropLink, hn]
  split <;> rfl

lemma link_dropLink (h : r.addresses.get? address ≠ some n) :
    (r.dropLink address).link n = r.link n := by
  cases hm : r.addresses.get? address with
  | none => rw [dropLink_of_none hm]
  | some m =>
      have hne : n ≠ m := fun hnm => h (hm.trans (congrArg some hnm.symm))
      obtain ⟨roster, hdrop⟩ := dropLink_of_some hm
      rw [hdrop]
      exact link_changeLink_of_ne hne (·.complete)

lemma sound_dropLink (hr : r.roster.Sound) (address : SocketAddress) :
    (r.dropLink address).roster.Sound := by
  cases hn : r.addresses.get? address with
  | none => rwa [dropLink_of_none hn]
  | some n =>
      rw [roster_dropLink hn]
      exact Roster.sound_leaveAll hr

lemma bans_dropLink (n : SessionNo) :
    ((r.dropLink address).roster.session n).bans = (r.roster.session n).bans := by
  cases hm : r.addresses.get? address with
  | none => rw [dropLink_of_none hm]
  | some m =>
      rw [roster_dropLink hm]
      exact Roster.lasting_bans.session_leaveAll

/-- Those who were bound through the connection of an address leave when it is dropped. -/
lemma leaves_dropLink (hr : r.roster.Sound) (address : SocketAddress) :
    Roster.Leaves (fun b => r.addresses.get? address == some b.link) r.roster
      (r.dropLink address).roster := by
  cases hn : r.addresses.get? address with
  | none =>
      rw [dropLink_of_none hn]
      exact .refl hr fun _ _ _ => rfl
  | some n =>
      rw [roster_dropLink hn]
      refine (Roster.leaves_leaveAll hr n).congr hr fun m b _ => ?_
      rw [Bool.eq_iff_iff, decide_eq_true_eq, beq_iff_eq, Option.some.injEq, eq_comm]

/-- The connections of some addresses were dropped, and nothing else happened to connections,
bindings and accounts. -/
structure Dropped (gone : List SocketAddress) (r r' : Relay) : Prop where
  addresses : r'.addresses = r.addresses.filter fun a _ => !gone.contains a
  /-- A connection that none of the addresses leads to is as it was. -/
  links : ∀ n, (∀ a ∈ gone, r.addresses.get? a ≠ some n) → r'.link n = r.link n
  /-- Those who were bound through the connections are gone. -/
  leaves : Roster.Leaves (fun b => gone.any fun a => r.addresses.get? a == some b.link)
    r.roster r'.roster
  bans : ∀ n, (r'.roster.session n).bans = (r.roster.session n).bans

/-- **What several connections leave behind does not depend on their order.** -/
lemma dropped_foldl (hr : r.roster.Sound) (gone : List SocketAddress) :
    Dropped gone r (gone.foldl dropLink r) := by
  induction gone generalizing r with
  | nil =>
      refine ⟨Table.ext (List.filter_eq_self.mpr ?_).symm, fun _ _ => rfl, ?_, fun _ => rfl⟩
      · simp
      · exact .refl hr fun _ _ _ => rfl
  | cons first gone ih =>
      have hrest := ih (sound_dropLink hr first)
      have hget (a : SocketAddress) : (r.dropLink first).addresses.get? a =
          if first = a then none else r.addresses.get? a := by
        rw [addresses_dropLink, Table.get?_erase]
      constructor
      case addresses =>
        rw [List.foldl_cons, hrest.addresses, addresses_dropLink, Table.filter_erase]
      case links =>
        intro n hn
        obtain ⟨hfirst, hothers⟩ := List.forall_mem_cons.mp hn
        rw [List.foldl_cons, hrest.links n, link_dropLink hfirst]
        intro a ha
        rw [hget]
        split
        · exact (Option.some_ne_none n).symm
        · exact hothers a ha
      case leaves =>
        refine ((leaves_dropLink hr first).trans hrest.leaves).congr hr fun n b _ => ?_
        rw [List.any_cons]
        by_cases hfirst : r.addresses.get? first = some b.link
        · simp [hfirst]
        · -- an address that occurs again leads nowhere then
          have hagain (a : SocketAddress) : ((r.dropLink first).addresses.get? a == some b.link) =
              (r.addresses.get? a == some b.link) := by
            rw [hget]
            split
            · rename_i he
              subst he
              simp [hfirst]
            · rfl
          simp [hagain]
      case bans =>
        intro n
        rw [List.foldl_cons, hrest.bans, bans_dropLink]

/-! ## The sweep -/

/-- The stale connections were dropped, and nothing else happened to connections, bindings and
accounts. -/
structure Swept (env : Environment) (now : Instant) (r r' : Relay) : Prop where
  /-- The other connections keep their addresses, in their order. -/
  addresses : r'.addresses = r.addresses.filter fun _ n => ¬ Stale env now (r.link n)
  /-- They are as they were. -/
  links : ∀ n, ¬ Stale env now (r.link n) → r'.link n = r.link n
  /-- Those who were bound through stale connections are gone, and the sessions that are empty now
  are gone from the table. -/
  leaves : Roster.Leaves (fun b => Stale env now (r.link b.link)) r.roster r'.roster
  bans : ∀ n, (r'.roster.session n).bans = (r.roster.session n).bans
  /-- Whoever is left in a session is on a connection that is left. -/
  housed : ∀ n, ∀ b ∈ (r'.roster.session n).bindings, r'.HasAddress b.link

lemma swept_of_dropped (hr : r.roster.Sound) (hhoused : r.Housed)
    (h : Dropped (r.staleAddresses env now) r r') (hhoused' : r'.Housed)
    (hr' : r'.roster.Sound) : Swept env now r r' := by
  constructor
  case addresses =>
    rw [h.addresses]
    refine Table.ext (List.filter_congr fun e he => ?_)
    rw [Bool.eq_iff_iff, Bool.not_eq_true', decide_eq_true_eq, ← Bool.not_eq_true,
      List.contains_iff_mem, mem_staleAddresses, Table.get?_eq_some_iff.mpr he]
    simp
  case links =>
    intro n hn
    refine h.links n fun a ha haddress => hn ?_
    obtain ⟨m, hm, hstale⟩ := mem_staleAddresses.mp ha
    obtain rfl := Option.some.inj (haddress.symm.trans hm)
    exact hstale
  case leaves =>
    refine h.leaves.congr hr fun n b hb => ?_
    rw [Bool.eq_iff_iff, List.any_eq_true, decide_eq_true_eq]
    constructor
    · rintro ⟨a, ha, haddress⟩
      obtain ⟨m, hm, hstale⟩ := mem_staleAddresses.mp ha
      obtain rfl := Option.some.inj ((beq_iff_eq.mp haddress).symm.trans hm)
      exact hstale
    · intro hstale
      obtain ⟨a, haddress⟩ := hhoused b.seat b (hr.joined_of_mem hb)
      exact ⟨a, mem_staleAddresses.mpr ⟨b.link, haddress, hstale⟩, beq_iff_eq.mpr haddress⟩
  case bans => exact h.bans
  case housed => exact fun n b hb => hhoused' b.seat b (hr'.joined_of_mem hb)

lemma length_staleAddresses : (r.staleAddresses env now).length =
    (r.addresses.filter fun _ n => Stale env now (r.link n)).size := by
  rw [staleAddresses, List.length_map]
  refine congrArg List.length (List.filter_congr fun e _ => ?_)
  rw [Bool.eq_iff_iff, decide_eq_true_eq, stale_iff]

/-- **A sweep drops exactly the connections that are stale,** says how many these were, and leaves
everything else as it was. -/
theorem sweep_drops_stale (h : Reachable env r) (now : Instant) :
    Swept env now r (r.sweep env now).1 ∧
      (r.sweep env now).2 = (r.addresses.filter fun _ n => Stale env now (r.link n)).size ∧
      (r.sweep env now).2 + (r.sweep env now).1.addresses.size = r.addresses.size := by
  have hr : r.roster.Sound := h.orderly.roster.sound
  have hafter : Reachable env (r.sweep env now).1 := h.step ⟨now, 0⟩ .sweep
  have hswept : Swept env now r (r.sweep env now).1 :=
    swept_of_dropped hr h.housed (dropped_foldl hr (r.staleAddresses env now)) hafter.housed
      hafter.orderly.roster.sound
  refine ⟨hswept, length_staleAddresses, ?_⟩
  rw [hswept.addresses]
  refine (congrArg (· + _) length_staleAddresses).trans ?_
  simp only [Table.size, Table.filter, decide_not]
  exact (List.length_eq_length_filter_add _).symm

/-- Half a minute after the first moment. -/
def soon : Moment := (default : Moment).after (Span.seconds 30)

/-- Two peers that join two sessions at the first moment, and a third that joins one of them half a
minute later, each through its own connection. -/
def lateJoins : List (Moment × Event) :=
  let join (peer : PeerId) : Bytes :=
    Frame.encode ⟨PeerId.server, peer, 1, [CommandTag.joinSession.byte]⟩
  [(default, .datagram { (default : SocketAddress) with port := 1 } (join ⟨1⟩)),
    (default, .datagram { (default : SocketAddress) with port := 2 } (join ⟨65537⟩)),
    (soon, .datagram { (default : SocketAddress) with port := 3 } (join ⟨2⟩))]

/-- Just after a minute the first two are dropped.  One session is gone, and the other has the third
peer left. -/
theorem sweep_drops_two_of_three :
    let r := start.run openServer lateJoins
    let swept := r.sweep openServer 60000000001
    Swept openServer 60000000001 r swept.1 ∧ swept.2 = 2 ∧ swept.1.addresses.size = 1 ∧
      (swept.1.roster.session 0).peers = [⟨2⟩] ∧ (swept.1.roster.session 1).peers = [] ∧
      swept.1.roster.table.values = [0] := by
  intro r swept
  obtain ⟨hswept, -, hsize⟩ := sweep_drops_stale (Reachable.start.run lateJoins) 60000000001
  have htwo : swept.2 = 2 := by decide +kernel
  have hthree : r.addresses.size = 3 := by decide +kernel
  refine ⟨hswept, htwo, ?_, by decide +kernel, by decide +kernel, by decide +kernel⟩
  have hleft : swept.2 + swept.1.addresses.size = r.addresses.size := hsize
  omega

end Relay

end MeteredRelay
