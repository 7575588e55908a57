import Mathlib.Algebra.BigOperators.Group.List.Lemmas
import Mathlib.Algebra.GroupWithZero.Nat
import MeteredRelay.Proofs.Gauge
import MeteredRelay.Proofs.Roster.Connections

/-!
# The gauge of bound peers

The gauge goes up and down in each branch of a bind and at every leave, and it is not read by any of
them.  What it should show is how many bindings the connections know.  A peer that comes new on its
connection is one more; one that the connection held elsewhere stays one; one that is taken over
from another connection stays one too, and then what the new connection held elsewhere is one less.
These are the cases of `PeersCounted.bindNew` and `PeersCounted.takeOver`.

In a sound roster the bindings that connections know are those that sessions list
(`perm_listed`), so counted from either side their number is the same.  **`peerGauge_run`** says
that after every run the gauge shows it.
-/

namespace MeteredRelay

namespace Roster

variable {env : Environment} {r r' : Roster} {n : SessionNo} {a b old : Binding} {p peer : PeerId}
  {id : SessionId} {link : LinkNo} {g : Grant} {now : Instant}

/-! ## What the gauge follows -/

/-- The gauge of bound peers shows how many bindings the connections know. -/
def PeersCounted (r : Roster) : Prop := r.peerGauge.Reads r.joined.size

@[simp] lemma peerGauge_forceListing : (r.forceListing n).peerGauge = r.peerGauge := by
  unfold forceListing; split <;> rfl

@[simp] lemma peerGauge_forget : (r.forget id n).peerGauge = r.peerGauge := by
  unfold forget; split <;> rfl

/-- To remove a peer from a session leaves the gauge to the caller. -/
@[simp] lemma peerGauge_remove : (r.remove n p).peerGauge = r.peerGauge := by
  simp only [remove, settle]
  split <;> simp [changeSession]

@[simp] lemma peerGauge_part : (r.part b).peerGauge = r.peerGauge := by
  unfold part; split <;> rfl

lemma peerGauge_openSession (hr : r.Sound) {x : Roster} (hx : r.openSession id = (x, n)) :
    x.peerGauge = r.peerGauge := by
  rcases openSession_cases hr hx with ⟨-, rfl⟩ | ⟨-, hcreate⟩
  · rfl
  · cases hcreate
    rfl

/-- A binding that is joined is one more, unless it takes the place of another. -/
lemma size_joined_join :
    (r.join b).joined.size = r.joined.size + if (r.joined.get? b.seat).isSome then 0 else 1 :=
  Table.size_insert ..

/-- A binding that its connection knows is one less after it was parted with. -/
lemma size_joined_part (h : r.joined.get? b.seat = some b) :
    (r.part b).joined.size + 1 = r.joined.size := by
  have hsize := Table.size_erase r.joined b.seat
  rw [h] at hsize
  have hpart : (r.part b).joined = r.joined.erase b.seat := by
    simp only [part]
    exact congrArg Roster.joined (if_pos h)
  rw [hpart]
  exact hsize

/-- What a connection holds for a peer is elsewhere, if it is not in the same session. -/
lemma elsewhere_eq (h : ∀ a, r.joined.get? b.seat = some a → a.session ≠ b.session) :
    r.elsewhere b = r.joined.get? b.seat := by
  ext a
  rw [elsewhere_eq_some_iff]
  exact and_iff_left_of_imp (h a)

namespace PeersCounted

lemma congr (h : r.PeersCounted) (hg : r'.peerGauge = r.peerGauge) (hj : r'.joined = r.joined) :
    r'.PeersCounted := by
  rw [PeersCounted, hg, hj]
  exact h

/-! ## Binds -/

/-- A peer that comes new is one more, unless its connection held it elsewhere. -/
lemma bindNew (h : r.PeersCounted) (hr : r.SoundBut (some b.session) none)
    (hp : b.peer ∉ (r.session b.session).peers) : (r.bindNew b).PeersCounted := by
  have hfree : ∀ a, r.joined.get? b.seat = some a → a.session ≠ b.session := by
    intro a ha hs
    rcases (hr.joined _ a).mp ha with ⟨hmem, hseat, -⟩
    exact hp (Session.mem_peers.mpr ⟨a, hs ▸ hmem, (Binding.seat_eq_iff.mp hseat).2⟩)
  have hsize : ((r.changeSession b.session (·.welcome b)).join b).joined.size =
      r.joined.size + if (r.joined.get? b.seat).isSome then 0 else 1 := size_joined_join
  simp only [Roster.bindNew]
  rw [elsewhere_eq hfree]
  cases hold : r.joined.get? b.seat with
  | none =>
      rw [hold] at hsize
      show r.peerGauge.increment.Reads _
      rw [hsize]
      exact Gauge.Reads.increment h
  | some old =>
      rw [hold] at hsize
      refine congr (r := (r.changeSession b.session (·.welcome b)).join b) ?_
        peerGauge_remove joined_remove
      rw [PeersCounted, hsize]
      exact h

/-- A peer that is taken over stays one, and what its new connection held elsewhere is one less. -/
lemma takeOver (h : r.PeersCounted) (hr : r.Sound) (hold : old ∈ (r.session b.session).bindings)
    (hp : old.peer = b.peer) (hl : old.link ≠ b.link) : (r.takeOver old b).PeersCounted := by
  obtain ⟨parted, hparted⟩ : ∃ parted,
      parted = (r.changeSession b.session (·.replace b)).part old := ⟨_, rfl⟩
  have hgauge : parted.peerGauge = r.peerGauge := by
    rw [hparted, peerGauge_part]
    rfl
  have hleft : parted.joined.size + 1 = r.joined.size := by
    rw [hparted]
    exact size_joined_part (hr.joined_of_mem hold)
  have hfree : ∀ a, parted.joined.get? b.seat = some a → a.session ≠ b.session := by
    intro a ha hs
    rw [hparted, get?_joined_part, Option.filter_eq_some_iff, joined_changeSession] at ha
    rcases hr.joined_iff.mp ha.1 with ⟨hmem, hseat⟩
    -- in this session it would be the binding that was taken over, but that had another connection
    have hpeer : a.peer = old.peer := (Binding.seat_eq_iff.mp hseat).2.trans hp.symm
    have hao : a = old := (hr.tidy _).eq_of_peer_eq (hs ▸ hmem) hold hpeer
    exact hl (hao ▸ (Binding.seat_eq_iff.mp hseat).1)
  have hsize : (parted.join b).joined.size =
      parted.joined.size + if (parted.joined.get? b.seat).isSome then 0 else 1 := size_joined_join
  unfold Roster.takeOver
  dsimp only
  rw [← hparted, elsewhere_eq hfree]
  cases hother : parted.joined.get? b.seat with
  | none =>
      rw [hother] at hsize
      have hsame : (parted.join b).joined.size = r.joined.size := hsize.trans hleft
      show parted.peerGauge.Reads _
      rw [hsame, hgauge]
      exact h
  | some other =>
      rw [hother] at hsize
      refine congr (r := { parted.join b with peerGauge := parted.peerGauge.decrement }) ?_
        peerGauge_remove joined_remove
      show parted.peerGauge.decrement.Reads _
      have hone : ((parted.join b).joined.size : Int) = r.joined.size - 1 := by
        rw [hsize, ← hleft]
        simp
      rw [hone, hgauge]
      exact Gauge.Reads.decrement h

lemma binds {outcome : Except RelayFault SessionNo} (h : r.PeersCounted) (hr : r.Sound)
    (hr' : Binds r now link peer g r' outcome) : r'.PeersCounted := by
  cases hr' with
  | banned => exact h
  | mismatched => exact h.congr rfl rfl
  | refreshed => exact h.congr rfl rfl
  | takenOver hn hban hb hs hl =>
      rename_i n old
      have hmem := Session.mem_of_find? hb
      have hsess : old.session = n := (hr.tidy n).home old hmem
      have hlifted : ({ r.changeSession n (·.liftBan peer now) with
          purses := r.purses.copy old.purse } : Roster).PeersCounted := h.congr rfl rfl
      have hheld :
          old ∈ ((r.changeSession n (·.liftBan peer now)).session old.session).bindings := by
        rw [bindings_lifted, hsess]
        exact hmem
      have hsound := sound_purses (sound_liftBan hr peer now n) (r.purses.copy old.purse)
      exact congr (hlifted.takeOver (b := old.movedTo link g.isAdmin r.purses.size) hsound hheld
        rfl hl) rfl rfl
  | welcomed hx hban hp =>
      rename_i x n
      have hpend := (sound_openSession hr hx).1
      have hopened : x.PeersCounted :=
        h.congr (peerGauge_openSession hr hx) (joined_openSession hr hx)
      have hlifted : ({ x.changeSession n (·.liftBan peer now) with
          purses := x.purses.start } : Roster).PeersCounted := hopened.congr rfl rfl
      refine congr (hlifted.bindNew ?_ ?_) rfl rfl
      · exact sound_purses (sound_liftBan hpend peer now n) _
      · show peer ∉ ((x.changeSession n _).session n).peers
        rwa [Session.peers, bindings_lifted]

/-! ## Leaving -/

/-- A peer that leaves is one less. -/
lemma leave (h : r.PeersCounted) : (r.leave link peer).1.PeersCounted := by
  simp only [Roster.leave]
  cases hb : r.joined.get? ⟨link, peer⟩ with
  | none => exact h
  | some b =>
      have hsize := Table.size_erase r.joined ⟨link, peer⟩
      rw [hb] at hsize
      have hone : ((r.joined.erase ⟨link, peer⟩).size : Int) = r.joined.size - 1 := by
        rw [← hsize]
        simp
      show (Roster.remove _ b.session b.peer).peerGauge.Reads (Roster.remove _ _ _).joined.size
      rw [peerGauge_remove, joined_remove, hone]
      exact Gauge.Reads.decrement h

lemma leaveAll (h : r.PeersCounted) : (r.leaveAll link).PeersCounted :=
  leaveAll_induction (fun _ _ => leave) h

lemma kick (h : r.PeersCounted) {source target : PeerId} {banSeconds : UInt32} :
    (r.kick now link source target banSeconds).1.PeersCounted := by
  rcases kick_cases r now link source target banSeconds with
    hkick | ⟨held, hkick | ⟨n, last, hkick⟩⟩
  · rwa [hkick]
  · rw [hkick]
    exact h.leave
  · rw [hkick]
    exact leave (h.congr rfl rfl)

end PeersCounted

lemma Rotates.peerGauge {source : PeerId} {message : Bytes} {outcome : Except RelayFault Unit}
    (hr' : Rotates env r link source message r' outcome) : r'.peerGauge = r.peerGauge := by
  cases hr' <;> rfl

/-! ## Runs -/

/-- **Every act of a sound roster keeps the gauge of bound peers right.** -/
theorem PeersCounted.act (h : r.PeersCounted) (hr : r.Sound) (now : Moment) (a : Act) :
    (r.act env now a).PeersCounted := by
  cases a with
  | bind link peer grant => exact h.binds hr (binds_bind hr now.instant link peer grant)
  | leave link peer => exact h.leave
  | leaveAll link => exact h.leaveAll
  | kick link source target banSeconds => exact h.kick
  | rotate link source message =>
      have hrotates := rotates_rotate hr env now link source message
      exact h.congr hrotates.peerGauge hrotates.joined
  | forceListing n => exact h.congr peerGauge_forceListing joined_forceListing
  | _ => exact h.congr rfl rfl

lemma peersCounted_run (env : Environment) (acts : List (Moment × Act)) :
    (empty.run env acts).PeersCounted :=
  (run_induction (P := fun r => r.Sound ∧ r.PeersCounted)
    (fun now a h => ⟨sound_act now a h.1, h.2.act h.1 now a⟩)
    ⟨sound_empty, Gauge.reads_zero⟩ acts).2

/-! ## Counting bindings -/

/-- The connections that know bindings. -/
def links (r : Roster) : List LinkNo := (r.joined.keys.map (·.link)).dedup

/-- How many entries the connections have for their peers, all together. -/
def boundCount (r : Roster) : Nat := (r.links.map fun link => (r.peersOf link).length).sum

/-- The bindings that the sessions list. -/
def listed (r : Roster) : List Binding := r.sessions.toList.flatMap (·.bindings)

lemma boundCount_eq (r : Roster) : r.boundCount = r.joined.size := by
  have hcount : ∀ link, (r.peersOf link).length = (r.joined.keys.map (·.link)).count link := by
    intro link
    rw [peersOf, List.length_map, List.count, List.countP_map, List.countP_eq_length_filter]
    rfl
  simp only [boundCount, links, hcount]
  rw [List.sum_map_count_dedup_eq_length]
  simp [Table.keys, Table.size]

lemma mem_listed : b ∈ r.listed ↔ ∃ n, b ∈ (r.session n).bindings := by
  simp only [listed, List.mem_flatMap, Store.toList, Array.mem_toList_iff]
  constructor
  · rintro ⟨s, hs, hb⟩
    rcases Array.getElem?_of_mem hs with ⟨n, hn⟩
    refine ⟨n, ?_⟩
    rwa [session, Store.get?, hn]
  · rintro ⟨n, hb⟩
    have hlt := lt_size_of_mem hb
    rcases Option.isSome_iff_exists.mp (Store.get?_isSome_iff.mpr hlt) with ⟨s, hs⟩
    rw [session, hs] at hb
    exact ⟨s, Array.mem_of_getElem? hs, hb⟩

/-- No binding is listed twice, by one session or by two. -/
lemma nodup_listed (hr : r.Sound) : r.listed.Nodup := by
  have hrow : ∀ (i : Nat) (hi : i < r.sessions.toList.length),
      r.sessions.toList[i] = r.session i := by
    intro i hi
    have hi' : i < r.sessions.rows.size := by simpa [Store.toList] using hi
    simp [session, Store.get?, Store.toList, hi']
  rw [listed, List.nodup_flatMap]
  constructor
  · intro s hs
    rcases List.getElem_of_mem hs with ⟨i, hi, rfl⟩
    rw [hrow]
    exact List.Nodup.of_map _ (hr.tidy i).distinct
  · rw [List.pairwise_iff_getElem]
    intro i j hi hj hlt b hb hb'
    rw [hrow] at hb hb'
    exact Nat.ne_of_lt hlt (((hr.tidy i).home b hb).symm.trans ((hr.tidy j).home b hb'))

/-- The bindings that connections know are those that sessions list, and each is there once. -/
lemma perm_listed (hr : r.Sound) : r.joined.values.Perm r.listed := by
  have hseat : ∀ e ∈ r.joined.entries, e.2.seat = e.1 := by
    rintro ⟨seat, b⟩ he
    exact (hr.joined_iff.mp (Table.get?_eq_some_iff.mpr he)).2
  have hnodup : r.joined.values.Nodup := by
    refine List.Nodup.of_map Binding.seat ?_
    have hkeys : r.joined.values.map Binding.seat = r.joined.entries.map Prod.fst := by
      rw [Table.values, List.map_map]
      exact List.map_congr_left hseat
    rw [hkeys]
    exact r.joined.nodup
  refine (List.perm_ext_iff_of_nodup hnodup (nodup_listed hr)).mpr fun b => ?_
  rw [mem_listed]
  constructor
  · intro hb
    rcases List.mem_map.mp hb with ⟨⟨seat, b⟩, he, rfl⟩
    exact ⟨_, (hr.joined_iff.mp (Table.get?_eq_some_iff.mpr he)).1⟩
  · rintro ⟨n, hb⟩
    exact List.mem_map.mpr ⟨_, Table.get?_eq_some_iff.mp (hr.joined_of_mem hb), rfl⟩

/-- **The gauge of bound peers shows how many are bound.**  After every run this is the number of
entries that all connections have for their peers, and the number of bindings that all sessions
list. -/
theorem peerGauge_run (env : Environment) (acts : List (Moment × Act)) :
    let r := empty.run env acts
    r.peerGauge.Reads r.boundCount ∧
      r.boundCount = (r.sessions.toList.map fun s => s.bindings.length).sum ∧
      (r.boundCount < 2 ^ 63 → r.peerGauge.value.toInt = r.boundCount) := by
  intro r
  have hr : r.Sound := sound_run env acts
  have hreads : r.peerGauge.Reads r.boundCount := by
    rw [boundCount_eq]
    exact peersCounted_run env acts
  refine ⟨hreads, ?_, fun hfits => hreads.toInt_eq (by omega) (by omega)⟩
  have hlength := (perm_listed hr).length_eq
  rw [listed, List.length_flatMap] at hlength
  rw [boundCount_eq, ← hlength, Table.values, List.length_map, Table.size]

end Roster

end MeteredRelay
