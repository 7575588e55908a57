import MeteredRelay.Proofs.Gauge
import MeteredRelay.Proofs.Relay.Turns

/-!
# The gauges of connections

A listener has two gauges, one for the connections that completed their handshake and one for those
that did not.  A connection enters one of them when it is made, changes from one to the other when
it completes, and leaves the one that it is in when it is dropped.

Which gauge that is depends on the connection, and a connection may have completed, or may have been
dropped and made again, between the handshake that is answered now and the datagram it came in.  So
each turn is counted by itself: the connection of an address is set apart from the others
(`linkCount_eq`), which stay as they are because no other address leads to it.
**`linkGauges_run`** is the sum of this over a run.
-/

namespace MeteredRelay

namespace Table

variable {κ α : Type} [DecidableEq κ] {t : Table κ α} {k : κ} {v : α}

lemma put_of_not_mem {l : List (κ × α)} (h : k ∉ l.map Prod.fst) : put k v l = l ++ [(k, v)] := by
  induction l with
  | nil => rfl
  | cons e l ih =>
      rw [List.map_cons, List.mem_cons, not_or] at h
      simp only [put, if_neg (Ne.symm h.1), ih h.2, List.cons_append]

lemma values_insert (h : t.get? k = none) : (t.insert k v).values = t.values ++ [v] := by
  have hentries : (t.insert k v).entries = t.entries ++ [(k, v)] :=
    put_of_not_mem (get?_eq_none_iff.mp h)
  rw [values, hentries, List.map_append]
  rfl

lemma perm_filter_ne {l : List (κ × α)} (hl : (l.map Prod.fst).Nodup) (h : (k, v) ∈ l) :
    l.Perm ((k, v) :: l.filter fun e => e.1 ≠ k) := by
  induction l with
  | nil => contradiction
  | cons e l ih =>
      rw [List.map_cons, List.nodup_cons] at hl
      have hne (e' : κ × α) (he : e' ∈ l) : e'.1 ≠ e.1 := by
        intro heq
        exact hl.1 (heq ▸ List.mem_map_of_mem he)
      rcases List.mem_cons.mp h with rfl | hmem
      · have hrest : (l.filter fun e => e.1 ≠ k) = l :=
          List.filter_eq_self.mpr fun e' he => decide_eq_true (hne e' he)
        rw [List.filter_cons_of_neg (by simp), hrest]
      · have hkey : e.1 ≠ k := (hne _ hmem).symm
        rw [List.filter_cons_of_pos (by simpa using hkey)]
        exact ((ih hl.2 hmem).cons e).trans (.swap ..)

/-- A value and those that are left without it. -/
lemma perm_values_erase (h : t.get? k = some v) : t.values.Perm (v :: (t.erase k).values) :=
  (perm_filter_ne t.nodup (get?_eq_some_iff.mp h)).map Prod.snd

end Table

namespace Relay

variable {env : Environment} {now : Moment} {r x : Relay} {n : LinkNo} {l : Link} {e : Event}
  {address : SocketAddress}

/-! ## Counting -/

/-- How many connections with addresses are pending, or are not. -/
def linkCount (r : Relay) (pending : Bool) : Nat :=
  r.addresses.values.countP fun n => (r.link n).isPending == pending

lemma linkCount_add (r : Relay) : r.linkCount false + r.linkCount true = r.addresses.size := by
  have hsplit := List.length_eq_countP_add_countP (fun n => (r.link n).isPending == false)
    (l := r.addresses.values)
  have hother : r.linkCount true = r.addresses.values.countP
      fun n => !((r.link n).isPending == false) := by
    refine List.countP_congr fun n _ => ?_
    cases (r.link n).isPending <;> simp
  rw [hother, linkCount]
  simpa [Table.values, Table.size] using hsplit.symm

/-- The connection of an address, and the others. -/
lemma linkCount_eq (hn : r.addresses.get? address = some n) (pending : Bool) :
    r.linkCount pending = (r.addresses.erase address).values.countP
        (fun m => (r.link m).isPending == pending) +
      if (r.link n).isPending = pending then 1 else 0 := by
  rw [linkCount, (Table.perm_values_erase hn).countP_eq, List.countP_cons]
  simp

/-- What becomes of the connection of an address does not show in the others. -/
lemma countP_others (hr : r.Labelled) (hn : r.addresses.get? address = some n)
    (hx : ∀ m, m ≠ n → x.link m = r.link m) (pending : Bool) :
    (r.addresses.erase address).values.countP (fun m => (x.link m).isPending == pending) =
      (r.addresses.erase address).values.countP fun m => (r.link m).isPending == pending := by
  refine List.countP_congr fun m hm => ?_
  rcases List.mem_map.mp hm with ⟨⟨other, m⟩, he, rfl⟩
  have hother := Table.get?_eq_some_iff.mpr he
  rw [Table.get?_erase] at hother
  split at hother
  · contradiction
  · rename_i hne
    have hmn : m ≠ n := by
      rintro rfl
      exact hne (hr.inj hn hother).symm
    rw [hx m hmn]

/-- A connection that is made for an address without one is one more of its kind. -/
lemma linkCount_enroll (hr : r.Labelled) (hnone : r.addresses.get? l.address = none)
    (pending : Bool) : (r.enroll l).1.linkCount pending =
      r.linkCount pending + if l.isPending = pending then 1 else 0 := by
  have hvalues : (r.enroll l).1.addresses.values = r.addresses.values ++ [r.links.size] :=
    Table.values_insert hnone
  have hold : r.addresses.values.countP (fun n => ((r.enroll l).1.link n).isPending == pending) =
      r.linkCount pending := by
    refine List.countP_congr fun n hn => ?_
    rcases List.mem_map.mp hn with ⟨⟨address, n⟩, he, rfl⟩
    have hlt := hr.lt_size address n (Table.get?_eq_some_iff.mpr he)
    rw [link_enroll, if_neg (Nat.ne_of_lt hlt)]
  rw [linkCount, hvalues, List.countP_append, hold, List.countP_singleton, link_enroll, if_pos rfl]
  simp

/-! ## The gauges -/

/-- Either gauge shows how many connections it is for. -/
structure LinksGauged (r : Relay) : Prop where
  established : r.linkGauge.Reads (r.linkCount false)
  pending : r.pendingGauge.Reads (r.linkCount true)

lemma linksGauged_start : start.LinksGauged := ⟨Gauge.reads_zero, Gauge.reads_zero⟩

namespace LinksGauged

lemma steady (h : r.LinksGauged) (hs : Steady r x) : x.LinksGauged := by
  have hcount (pending : Bool) : x.linkCount pending = r.linkCount pending := by
    rw [linkCount, hs.addresses]
    refine List.countP_congr fun n _ => ?_
    rw [Link.isPending, hs.pending, Link.isPending]
  refine ⟨?_, ?_⟩
  · rw [hs.linkGauge, hcount]
    exact h.established
  · rw [hs.pendingGauge, hcount]
    exact h.pending

lemma begins (h : r.LinksGauged) (hr : r.Labelled) {first : Handshake}
    (hnone : r.addresses.get? first.address = none) (rest : List Handshake) (key : Key) :
    (r.beginLink first rest key).LinksGauged := by
  have hcount (pending : Bool) : (r.beginLink first rest key).linkCount pending = _ :=
    linkCount_enroll (l := begun first key) hr hnone pending
  refine ⟨?_, ?_⟩
  · rw [hcount]
    exact h.established
  · rw [hcount]
    exact h.pending.increment

lemma founds (h : r.LinksGauged) (hr : r.Labelled) (hnone : r.addresses.get? address = none)
    (now : Instant) : (r.foundLink address now).LinksGauged := by
  have hcount (pending : Bool) : (r.foundLink address now).linkCount pending = _ :=
    linkCount_enroll (l := .plain address now) hr hnone pending
  refine ⟨?_, ?_⟩
  · rw [hcount]
    exact h.established.increment
  · rw [hcount]
    exact h.pending

/-- A connection that completes changes from one gauge to the other. -/
lemma completes (h : r.LinksGauged) (hr : r.Labelled) (hn : r.addresses.get? address = some n)
    (hpending : (r.link n).isPending = true) : (r.complete n).LinksGauged := by
  have hlt := hr.lt_size address n hn
  have hdone : ((r.complete n).link n).isPending = false := by
    show ((r.changeLink n (·.complete)).link n).isPending = false
    rw [link_complete hlt, if_pos rfl]
    rfl
  have hothers := countP_others (x := r.complete n) hr hn fun m hm => link_changeLink_of_ne hm _
  have hbefore (pending : Bool) := linkCount_eq hn pending
  have hafter (pending : Bool) := linkCount_eq (r := r.complete n) hn pending
  have haddresses : (r.complete n).addresses = r.addresses := rfl
  -- the others are the same before and after, so only this connection is counted again
  simp only [hdone, haddresses, hothers] at hafter
  simp only [hpending] at hbefore
  refine ⟨?_, ?_⟩
  · have hcount : ((r.complete n).linkCount false : Int) = r.linkCount false + 1 := by
      rw [hafter, hbefore]
      simp
    rw [hcount]
    exact h.established.increment
  · have hcount : ((r.complete n).linkCount true : Int) = r.linkCount true - 1 := by
      rw [hafter, hbefore]
      simp
    rw [hcount]
    exact h.pending.decrement

/-- A connection that is dropped leaves the gauge that it is in. -/
lemma dropLink (h : r.LinksGauged) (hr : r.Labelled) (address : SocketAddress) :
    (r.dropLink address).LinksGauged := by
  cases hn : r.addresses.get? address with
  | none => rwa [dropLink_of_none hn]
  | some n =>
      rcases dropLink_of_some hn with ⟨roster, hdrop⟩
      have hleft (pending : Bool) : ((r.dropLink address).linkCount pending : Int) =
          r.linkCount pending - if (r.link n).isPending = pending then 1 else 0 := by
        have hothers := countP_others (x := r.dropLink address) hr hn
          (fun m hm => by rw [hdrop]; exact link_changeLink_of_ne hm _) pending
        have haddresses : (r.dropLink address).addresses = r.addresses.erase address := by
          rw [hdrop]
        rw [linkCount_eq hn pending, ← hothers, linkCount, haddresses]
        push_cast
        omega
      have hgauges : (r.dropLink address).linkGauge =
            (if (r.link n).isPending then r.linkGauge else r.linkGauge.decrement) ∧
          (r.dropLink address).pendingGauge =
            (if (r.link n).isPending then r.pendingGauge.decrement else r.pendingGauge) := by
        rw [hdrop]
        exact ⟨rfl, rfl⟩
      cases hpending : (r.link n).isPending with
      | false =>
          simp only [hpending] at hleft hgauges
          refine ⟨?_, ?_⟩
          · rw [hgauges.1, hleft]
            exact h.established.decrement
          · rw [hgauges.2, hleft]
            simpa using h.pending
      | true =>
          simp only [hpending] at hleft hgauges
          refine ⟨?_, ?_⟩
          · rw [hgauges.1, hleft]
            simpa using h.established
          · rw [hgauges.2, hleft]
            exact h.pending.decrement

/-- Every turn is counted once. -/
lemma turns (h : r.LinksGauged) (hr : r.Labelled) (ht : Turns env now r e x) : x.LinksGauged := by
  cases ht with
  | rests | queues | repeats | skips | answers => exact ⟨h.established, h.pending⟩
  | founds _ hnone => exact h.founds hr hnone now.instant
  | completes hn hpending _ =>
      exact h.completes hr hn (by rw [Link.isPending, hpending]; rfl)
  | begins _ hnone _ _ =>
      rename_i first rest key sent _ _ _
      have hbegun := h.begins hr hnone rest key
      exact ⟨hbegun.established, hbegun.pending⟩
  | sweeps => exact hr.sweep_induction (fun _ address hx h => h.dropLink hx address) h

end LinksGauged

lemma linksGauged_run (env : Environment) (events : List (Moment × Event)) :
    (start.run env events).LinksGauged := by
  refine turns_induction (motive := fun _ r => r.LinksGauged) linksGauged_start ?_ events
  intro before now e x hr h hturns hsteady
  exact (h.turns hr hturns).steady hsteady

/-- **The gauges of connections show the connections.**  After any run of a listener, whether it
seals or not, one shows how many connections with addresses are not pending and the other how many
are.  They are exact, and so not negative, as long as a word holds the number of addresses. -/
theorem linkGauges_run (env : Environment) (events : List (Moment × Event)) :
    let r := start.run env events
    r.linkGauge.Reads (r.linkCount false) ∧ r.pendingGauge.Reads (r.linkCount true) ∧
      (r.addresses.size < 2 ^ 63 → r.linkGauge.value.toInt = r.linkCount false ∧
        r.pendingGauge.value.toInt = r.linkCount true ∧
        0 ≤ r.linkGauge.value.toInt ∧ 0 ≤ r.pendingGauge.value.toInt) := by
  intro r
  have hgauged : r.LinksGauged := linksGauged_run env events
  refine ⟨hgauged.established, hgauged.pending, fun hsize => ?_⟩
  have hsum := r.linkCount_add
  have hestablished := hgauged.established.toInt_eq (by omega) (by omega)
  have hpending := hgauged.pending.toInt_eq (by omega) (by omega)
  omega

end Relay

end MeteredRelay
