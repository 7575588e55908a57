import MeteredRelay.Proofs.Roster.SessionGauge

/-!
# A bind that has to try again

When the last peer leaves a session, the session is closed first and its entry goes after that.  A
bind that comes between finds an entry that leads to a closed session.  It must neither put its peer
there, where no message would ever come, nor wait for the entry to go.

From any roster, whatever is closed in it, a bind tries at most twice, and what it binds to is open
(**`bind_retries`**).  Sessions that were closed are left alone but for peers that leave them
(`LeavesClosed`), and the gauge of sessions moves with the number of entries, although up to three
sessions come and go: one that is dropped, one that is made, and one that the peer was the last to
leave.
-/

namespace MeteredRelay

namespace Roster

variable {r r' x y : Roster} {n m : SessionNo} {b old : Binding} {p peer : PeerId} {id : SessionId}
  {link : LinkNo} {g : Grant} {now : Instant} {f : Session → Session} {rounds : Nat}
  {outcome : Except RelayFault SessionNo}

/-- The entries of a roster lead to sessions that there are, and every session lists bindings of its
own.  Sessions may be closed or not. -/
structure WellFormed (r : Roster) : Prop where
  entries : ∀ id n, r.table.get? id = some n → n < r.sessions.size
  home : ∀ n, ∀ b ∈ (r.session n).bindings, b.session = n

/-- What was closed stays closed, and nobody is bound there who was not bound there before: neither
as the session lists it nor as connections know it. -/
structure LeavesClosed (r r' : Roster) : Prop where
  closed : ∀ m, (r.session m).closed = true → (r'.session m).closed = true
  bindings : ∀ m, (r.session m).closed = true →
    ∀ b ∈ (r'.session m).bindings, b ∈ (r.session m).bindings
  joined : ∀ seat b, r'.joined.get? seat = some b → (r.session b.session).closed = true →
    r.joined.get? seat = some b

namespace LeavesClosed

lemma of_same (hsessions : r'.sessions = r.sessions) (hjoined : r'.joined = r.joined) :
    LeavesClosed r r' := by
  have hsession := session_congr hsessions
  exact ⟨fun m hm => by rwa [hsession], fun m _ b hb => by rwa [← hsession],
    fun seat b hb _ => by rwa [← hjoined]⟩

lemma refl (r : Roster) : LeavesClosed r r := of_same rfl rfl

lemma trans (h : LeavesClosed r x) (h' : LeavesClosed x y) : LeavesClosed r y where
  closed m hm := h'.closed m (h.closed m hm)
  bindings m hm b hb := h.bindings m hm b (h'.bindings m (h.closed m hm) b hb)
  joined seat b hb hm := h.joined seat b (h'.joined seat b hb (h.closed _ hm)) hm

/-! ## Parts -/

/-- A session that is made was not there, and so not closed. -/
lemma create (r : Roster) (id : SessionId) : LeavesClosed r (r.create id).1 := by
  have hold (m : SessionNo) (hm : (r.session m).closed = true) :
      (r.create id).1.session m = r.session m := by
    rw [session_create, if_neg]
    rintro rfl
    rw [session_of_le (Nat.le_refl _)] at hm
    contradiction
  exact ⟨fun m hm => by rwa [hold m hm], fun m hm b hb => by rwa [← hold m hm],
    fun _ _ hb _ => hb⟩

lemma forget : LeavesClosed r (r.forget id n) := of_same sessions_forget joined_forget

/-- An open session may be changed at will. -/
lemma changeSession_of_open (hopen : (r.session n).closed = false) :
    LeavesClosed r (r.changeSession n f) := by
  have hold (m : SessionNo) (hm : (r.session m).closed = true) :
      (r.changeSession n f).session m = r.session m := by
    refine session_changeSession_of_ne ?_
    rintro rfl
    rw [hopen] at hm
    contradiction
  exact ⟨fun m hm => by rwa [hold m hm], fun m hm b hb => by rwa [← hold m hm],
    fun _ _ hb _ => hb⟩

/-- Any session may lose a peer. -/
lemma remove : LeavesClosed r (r.remove n p) := by
  suffices hchanged : LeavesClosed r (r.changeSession n (·.remove p)) from
    hchanged.trans (of_same sessions_settle joined_settle)
  by_cases hn : n < r.sessions.size
  · have hsession := session_changeSession hn (·.remove p)
    refine ⟨fun m hm => ?_, fun m _ b hb => ?_, fun _ _ hb _ => hb⟩
    · rw [hsession]
      split
      · rename_i hmn
        rw [hmn] at hm
        simp [Session.remove, hm]
      · exact hm
    · rw [hsession] at hb
      split at hb
      · rename_i hmn
        rw [hmn]
        exact (Session.mem_bindings_remove.mp hb).1
      · exact hb
  · exact changeSession_of_open (by rw [session_of_le (Nat.not_lt.mp hn)]; rfl)

/-- A connection may come to know a binding of an open session. -/
lemma join (hopen : (r.session b.session).closed = false) : LeavesClosed r (r.join b) := by
  refine ⟨fun _ hm => hm, fun _ _ _ hb => hb, fun seat a ha hclosed => ?_⟩
  rw [get?_joined_join] at ha
  split at ha
  · obtain rfl := Option.some.inj ha
    rw [hopen] at hclosed
    contradiction
  · exact ha

lemma part : LeavesClosed r (r.part b) := by
  refine ⟨fun m hm => by rwa [session_part], fun m _ a ha => by rwa [session_part] at ha,
    fun seat a ha _ => ?_⟩
  rw [get?_joined_part, Option.filter_eq_some_iff] at ha
  exact ha.1

/-! ## Binding -/

lemma bindNew (hopen : (r.session b.session).closed = false) : LeavesClosed r (r.bindNew b) := by
  have hwelcome (s : Session) : (s.welcome b).closed = s.closed := rfl
  have hwelcomed : ((r.changeSession b.session (·.welcome b)).session b.session).closed = false := by
    rwa [session_changeSession_congr Session.closed hwelcome]
  have hbound : LeavesClosed r ((r.changeSession b.session (·.welcome b)).join b) :=
    (changeSession_of_open hopen).trans (join hwelcomed)
  unfold Roster.bindNew
  dsimp only
  split
  · exact hbound.trans remove
  · exact hbound.trans (of_same rfl rfl)

lemma takeOver (hopen : (r.session b.session).closed = false) :
    LeavesClosed r (r.takeOver old b) := by
  have hreplace (s : Session) : (s.replace b).closed = s.closed := rfl
  have hreplaced :
      (((r.changeSession b.session (·.replace b)).part old).session b.session).closed = false := by
    rwa [session_part, session_changeSession_congr Session.closed hreplace]
  have hbound : LeavesClosed r (((r.changeSession b.session (·.replace b)).part old).join b) :=
    ((changeSession_of_open hopen).trans part).trans (join hreplaced)
  unfold Roster.takeOver
  dsimp only
  split
  · refine trans ?_ remove
    exact hbound.trans (of_same rfl rfl)
  · exact hbound

lemma searches (h : Searches id rounds r x n) : LeavesClosed r x :=
  h.keeps (P := LeavesClosed r) (fun y _ hy => hy.trans (create y id))
    (fun _ _ hy => hy.trans forget) (refl r)

lemma enters (hopen : (r.session n).closed = false)
    (hhome : ∀ b ∈ (r.session n).bindings, b.session = n)
    (h : Enters r n now link peer g r' outcome) : LeavesClosed r r' := by
  have hlifted : LeavesClosed r (r.changeSession n (·.liftBan peer now)) :=
    changeSession_of_open hopen
  have hopen' : ((r.changeSession n (·.liftBan peer now)).session n).closed = false := by
    rwa [session_changeSession_congr Session.closed closed_liftBan]
  cases h with
  | banned => exact refl r
  | mismatched => exact hlifted
  | refreshed =>
      exact (hlifted.trans (changeSession_of_open hopen')).trans (of_same rfl rfl)
  | @takenOver b _ hb =>
      have hsession : b.session = n := hhome b (Session.mem_of_find? hb)
      have hmoved : LeavesClosed r
          { r.changeSession n (·.liftBan peer now) with purses := r.purses.copy b.purse } :=
        hlifted.trans (of_same rfl rfl)
      refine (hmoved.trans (takeOver ?_)).trans (of_same rfl rfl)
      show ((r.changeSession n _).session b.session).closed = false
      rw [hsession]
      exact hopen'
  | welcomed =>
      have hready : LeavesClosed r
          { r.changeSession n (·.liftBan peer now) with purses := r.purses.start } :=
        hlifted.trans (of_same rfl rfl)
      refine (hready.trans (bindNew ?_)).trans (of_same rfl rfl)
      exact hopen'

end LeavesClosed

/-! ## Where the peer is bound -/

lemma session_bindNew_self (hlt : b.session < r.sessions.size) :
    (r.bindNew b).session b.session = (r.session b.session).welcome b := by
  have hbound : ((r.changeSession b.session (·.welcome b)).join b).session b.session =
      (r.session b.session).welcome b := by
    rw [session_join, session_changeSession hlt, if_pos rfl]
  unfold bindNew
  dsimp only
  split
  · rename_i old hold
    rw [session_remove_of_ne (elsewhere_eq_some_iff.mp hold).2.symm, hbound]
  · exact hbound

lemma session_takeOver_self (old : Binding) (hlt : b.session < r.sessions.size) :
    (r.takeOver old b).session b.session = (r.session b.session).replace b := by
  have hbound : (((r.changeSession b.session (·.replace b)).part old).join b).session b.session =
      (r.session b.session).replace b := by
    rw [session_join, session_part, session_changeSession hlt, if_pos rfl]
  unfold takeOver
  dsimp only
  split
  · rename_i other hother
    rw [session_remove_of_ne (elsewhere_eq_some_iff.mp hother).2.symm]
    exact hbound
  · exact hbound

/-- A bind that succeeds binds its peer in the session that it entered, and leaves this open. -/
lemma Enters.bound (hlt : n < r.sessions.size) (hopen : (r.session n).closed = false)
    (hhome : ∀ b ∈ (r.session n).bindings, b.session = n)
    (h : Enters r n now link peer g r' (.ok m)) :
    m = n ∧ (r'.session n).closed = false ∧ peer ∈ (r'.session n).peers := by
  have hlt' : n < (r.changeSession n (·.liftBan peer now)).sessions.size := by
    rwa [size_changeSession]
  have hopen' : ((r.changeSession n (·.liftBan peer now)).session n).closed = false := by
    rwa [session_changeSession_congr Session.closed closed_liftBan]
  have hpeers : ((r.changeSession n (·.liftBan peer now)).session n).peers =
      (r.session n).peers := by
    rw [Session.peers, bindings_lifted, Session.peers]
  have hread {y : Roster} {s : Session} (hs : y.session n = s) (hclosed : s.closed = false)
      (hmem : peer ∈ s.peers) : (y.session n).closed = false ∧ peer ∈ (y.session n).peers := by
    rw [hs]
    exact ⟨hclosed, hmem⟩
  cases h with
  | refreshed _ hb =>
      have hnoted := session_changeSession hlt' (·.noteMember peer) n
      rw [if_pos rfl] at hnoted
      exact ⟨rfl, hread hnoted hopen' (hpeers ▸ Session.mem_peers_of_find? hb)⟩
  | @takenOver b _ hb =>
      obtain rfl : b.session = n := hhome b (Session.mem_of_find? hb)
      have hreplaced := session_takeOver_self b
        (r := { r.changeSession b.session (·.liftBan peer now) with
          purses := r.purses.copy b.purse })
        (b := b.movedTo link g.isAdmin r.purses.size) hlt'
      refine ⟨rfl, hread hreplaced hopen' ?_⟩
      rw [Session.peers_replace]
      exact hpeers ▸ Session.mem_peers_of_find? hb
  | welcomed =>
      have hwelcomed := session_bindNew_self
        (r := { r.changeSession n (·.liftBan peer now) with purses := r.purses.start })
        (b := ⟨peer, n, link, g.size.toNat, g.isAdmin, r.purses.size⟩) hlt'
      refine ⟨rfl, hread hwelcomed hopen' ?_⟩
      rw [Session.peers_welcome]
      exact List.mem_append_right _ (List.mem_singleton_self peer)

/-! ## Any roster -/

namespace WellFormed

lemma create (h : r.WellFormed) (id : SessionId) : (r.create id).1.WellFormed := by
  have hsize : (r.create id).1.sessions.size = r.sessions.size + 1 := Store.size_add ..
  constructor
  · intro id' n hn
    have hinsert : (r.table.insert id r.sessions.size).get? id' = some n := hn
    rw [Table.get?_insert] at hinsert
    rw [hsize]
    split at hinsert
    · obtain rfl := Option.some.inj hinsert
      exact Nat.lt_succ_self _
    · exact Nat.lt_succ_of_lt (h.entries id' n hinsert)
  · intro n b hb
    rw [session_create] at hb
    split at hb
    · contradiction
    · exact h.home n b hb

lemma forget (h : r.WellFormed) : (r.forget id n).WellFormed := by
  constructor
  · intro id' m hm
    rw [get?_table_forget, Option.filter_eq_some_iff] at hm
    rw [sessions_forget]
    exact h.entries id' m hm.1
  · intro m b hb
    rw [session_congr sessions_forget] at hb
    exact h.home m b hb

lemma searches (h : r.WellFormed) (hx : Searches id rounds r x n) : x.WellFormed :=
  hx.keeps (fun _ _ hy => hy.create id) (fun _ _ hy => hy.forget) h

/-- A session may be closed, or changed in another way that leaves its bindings. -/
lemma changeSession (h : r.WellFormed) (hf : ∀ s, (f s).bindings = s.bindings) :
    (r.changeSession n f).WellFormed := by
  constructor
  · intro id m hm
    rw [size_changeSession]
    exact h.entries id m hm
  · intro m b hb
    rw [session_changeSession_congr Session.bindings hf] at hb
    exact h.home m b hb

end WellFormed

/-- What is sound is well-formed, so every roster that a run leads to is. -/
lemma SoundBut.wellFormed {pending : Option SessionNo} {ghost : Option Binding}
    (h : r.SoundBut pending ghost) : r.WellFormed :=
  ⟨fun id n hn => (h.keyed id n hn).1, fun n => (h.tidy n).home⟩

/-- **A bind tries at most twice, and never binds to a closed session.**  Let any sessions of a
roster be closed, the one that is asked for among them.  The search of a bind ends after two rounds
at most, and in one way only; what it ends with is open, and this is the session that the bind
enters.  If the bind succeeds, it returns this session, and the peer is in it and it is still open.
Whether it succeeds or not, nobody is newly bound to a closed session, and the gauge of sessions
moves by as much as the number of entries in the table. -/
theorem bind_retries (hr : r.WellFormed) (now : Instant) (link : LinkNo) (peer : PeerId)
    (g : Grant) :
    let r' := (r.bind now link peer g).1
    let outcome := (r.bind now link peer g).2
    (∃ rounds x n, rounds ≤ 2 ∧ Searches g.session rounds r x n ∧
      (∀ count y m, Searches g.session count r y m → count = rounds ∧ y = x ∧ m = n) ∧
      (x.session n).closed = false ∧ Enters x n now link peer g r' outcome ∧
      ∀ m, outcome = .ok m → m = n ∧ (r'.session n).closed = false ∧
        peer ∈ (r'.session n).peers) ∧
    LeavesClosed r r' ∧
    r'.sessionGauge.value =
      r.sessionGauge.value + Int64.ofInt ((r'.table.size : Int) - r.table.size) := by
  intro r' outcome
  obtain ⟨rounds, hrounds, hsearches⟩ := exists_searches r g.session
  have hopen := hsearches.closed_eq_false
  have henters : Enters _ _ now link peer g r' outcome := enters_bind rfl now link peer
  have hx := hr.searches hsearches
  have hlt := hx.entries _ _ hsearches.get?_table
  have hhome := hx.home (r.openSession g.session).2
  refine ⟨⟨rounds, _, _, hrounds, hsearches, fun _ _ _ h => hsearches.unique h, hopen, henters,
    fun m hm => ?_⟩, (LeavesClosed.searches hsearches).trans (.enters hopen hhome henters), ?_⟩
  · rw [hm] at henters
    exact henters.bound hlt hopen hhome
  · have hbefore : r.Ahead (r.sessionGauge.value.toInt - r.table.size) := by
      rw [Ahead, add_sub_cancel]
      exact Gauge.reads_toInt _
    have hmoved := Gauge.Reads.value_eq_add hbefore (hbefore.bind now link peer g)
    rwa [add_sub_add_right_eq_sub] at hmoved

/-- A peer is in a session that was closed, and whose entry is still there. -/
def staleEntry : Roster :=
  (empty.bind 0 0 ⟨1⟩ default).1.changeSession 0 fun s => { s with closed := true }

/-- Another peer that asks for the closed session is bound to a new one.  There is still one entry,
which leads to this, and the gauge shows one session before and after. -/
theorem bind_retries_stale_entry :
    let r := staleEntry
    let r' := (r.bind 0 1 ⟨2⟩ default).1
    (r.table.get? .zero = some 0 ∧ (r.session 0).closed = true) ∧
    (∃ rounds x, rounds ≤ 2 ∧ Searches .zero rounds r x 1) ∧
    ((r'.session 1).closed = false ∧ ⟨2⟩ ∈ (r'.session 1).peers) ∧ LeavesClosed r r' ∧
    r.sessionGauge.value = 1 ∧ r'.table.get? .zero = some 1 ∧ r'.sessionGauge.value = 1 := by
  intro r r'
  have hwell : r.WellFormed := (sound_bind sound_empty).wellFormed.changeSession fun _ => rfl
  obtain ⟨⟨rounds, x, n, hrounds, hsearches, -, -, -, hbound⟩, hleaves, hgauge⟩ :=
    bind_retries hwell 0 1 ⟨2⟩ default
  obtain ⟨rfl, hin⟩ := hbound 1 rfl
  have hone : r.sessionGauge.value = 1 := rfl
  have hsize : r'.table.size = r.table.size := rfl
  refine ⟨⟨rfl, rfl⟩, ⟨rounds, x, hrounds, hsearches⟩, hin, hleaves, hone, rfl, ?_⟩
  rw [hgauge, hone, hsize, Int.sub_self]
  rfl

end Roster

end MeteredRelay
