import MeteredRelay.Proofs.Roster.Sound

/-!
# Binding keeps a roster sound

A bind comes in four kinds: its peer is new in the session or taken over from another connection,
and its own connection held the peer elsewhere or not.  The first difference ends where the binding
is in its session and known to its connection: **`Settles`** says what is true then in either case,
and `Settles.sound` that the roster is sound but for the binding that the connection held elsewhere.
That one leaves in the same way after both (`sound_bindNew`, `sound_takeOver`).
-/

namespace MeteredRelay

namespace Roster

/-- A binding was put into its session, in the place of what its peer had there, and its connection
knows it. -/
structure Settles (r r' : Roster) (b : Binding) : Prop where
  size : r'.sessions.size = r.sessions.size
  table : r'.table = r.table
  others : ∀ m, m ≠ b.session → r'.session m = r.session m
  tidy : (r'.session b.session).Tidy b.session
  id : (r'.session b.session).id = (r.session b.session).id
  mem : ∀ a, a ∈ (r'.session b.session).bindings ↔
    a = b ∨ (a ∈ (r.session b.session).bindings ∧ a.peer ≠ b.peer)
  joined : ∀ seat a, r'.joined.get? seat = some a ↔
    (b.seat = seat ∧ a = b) ∨
      (b.seat ≠ seat ∧ r.joined.get? seat = some a ∧ ¬ (a.session = b.session ∧ a.peer = b.peer))

variable {r r' : Roster} {n : SessionNo} {a b old : Binding} {id : SessionId} {seat : Seat}

/-! ## What a connection holds elsewhere -/

lemma elsewhere_eq_some_iff :
    r.elsewhere b = some a ↔ r.joined.get? b.seat = some a ∧ a.session ≠ b.session := by
  simp only [elsewhere, Option.filter_eq_some_iff, decide_eq_true_eq]
  rfl

lemma elsewhere_ne_self : r.elsewhere b ≠ some b :=
  fun h => (elsewhere_eq_some_iff.mp h).2 rfl

namespace Settles

lemma mem_self (h : Settles r r' b) : b ∈ (r'.session b.session).bindings :=
  (h.mem b).mpr (.inl rfl)

/-- A binding in a session where the new one is, or in any other. -/
lemma mem_iff (h : Settles r r' b) :
    a ∈ (r'.session a.session).bindings ↔
      a = b ∨ (a ∈ (r.session a.session).bindings ∧
        ¬ (a.session = b.session ∧ a.peer = b.peer)) := by
  by_cases hs : a.session = b.session
  · rw [hs, h.mem]
    simp
  · rw [h.others _ hs]
    have hab : a ≠ b := fun e => hs (congrArg _ e)
    simp [hs, hab]

/-- What the connection held elsewhere is all that it does not know. -/
lemma joined_iff (h : Settles r r' b) (hr : r.SoundBut (some n) none) :
    r'.joined.get? seat = some a ↔
      a ∈ (r'.session a.session).bindings ∧ a.seat = seat ∧ r.elsewhere b ≠ some a := by
  rw [h.joined, h.mem_iff]
  constructor
  · rintro (⟨hb, rfl⟩ | ⟨hb, hj, hne⟩)
    · exact ⟨.inl rfl, hb, elsewhere_ne_self⟩
    · rcases (hr.joined _ a).mp hj with ⟨ha, hseat, -⟩
      refine ⟨.inr ⟨ha, hne⟩, hseat, fun hold => hb ?_⟩
      have hj' := (elsewhere_eq_some_iff.mp hold).1
      exact ((hr.joined _ a).mp hj').2.1.symm.trans hseat
  · rintro ⟨rfl | ⟨ha, hne⟩, hseat, hold⟩
    · exact .inl ⟨hseat, rfl⟩
    · have hj : r.joined.get? a.seat = some a := (hr.joined _ a).mpr ⟨ha, rfl, nofun⟩
      refine .inr ⟨fun hb => hold ?_, hseat ▸ hj, hne⟩
      -- the connection held it elsewhere, for in this session it would have the same peer
      have hab : a.seat = b.seat := hseat.trans hb.symm
      exact elsewhere_eq_some_iff.mpr
        ⟨hab ▸ hj, fun e => hne ⟨e, (Binding.seat_eq_iff.mp hab).2⟩⟩

/-- A roster in which a binding was settled is sound, but for what the connection held elsewhere. -/
lemma sound (h : Settles r r' b) (hr : r.SoundBut (some b.session) none) :
    r'.SoundBut none (r.elsewhere b) := by
  refine SoundBut.resolve ⟨?_, fun seat a => h.joined_iff hr, ?_, ?_⟩
    (List.ne_nil_of_mem h.mem_self)
  · intro m
    by_cases hm : m = b.session
    · rw [hm]
      exact h.tidy
    · rw [h.others m hm]
      exact hr.tidy m
  · intro id m hm
    rw [h.table] at hm
    rcases hr.keyed id m hm with ⟨hlt, hid⟩
    refine ⟨h.size ▸ hlt, ?_⟩
    by_cases hs : m = b.session
    · rw [hs, h.id, ← hs]
      exact hid
    · rw [h.others m hs]
      exact hid
  · intro id m hm
    rw [h.table] at hm
    rcases hr.inhabited id m hm with hp | hne
    · exact .inl hp
    · by_cases hs : m = b.session
      · exact .inl (by rw [hs])
      · rw [h.others m hs]
        exact .inr hne

/-- What the connection held elsewhere is still in its session. -/
lemma mem_elsewhere (h : Settles r r' b) (hr : r.SoundBut (some n) none)
    (hold : r.elsewhere b = some old) :
    old ∈ (r'.session old.session).bindings ∧ old.peer = b.peer := by
  rcases elsewhere_eq_some_iff.mp hold with ⟨hj, hs⟩
  rcases (hr.joined _ old).mp hj with ⟨hmem, hseat, -⟩
  rw [h.others _ hs]
  exact ⟨hmem, (Binding.seat_eq_iff.mp hseat).2⟩

end Settles

/-! ## A peer that comes new -/

/-- A binding of a peer that the session does not have settles. -/
lemma settles_welcome (hr : r.SoundBut (some b.session) none) (hlt : b.session < r.sessions.size)
    (hp : b.peer ∉ (r.session b.session).peers) (hc : (r.session b.session).closed = false) :
    Settles r ((r.changeSession b.session (·.welcome b)).join b) b := by
  have hs := session_changeSession hlt (·.welcome b)
  have hne : ∀ a ∈ (r.session b.session).bindings, a.peer ≠ b.peer :=
    fun a ha e => hp (Session.mem_peers.mpr ⟨a, ha, e⟩)
  refine ⟨size_changeSession, rfl, ?_, ?_, ?_, ?_, ?_⟩
  · intro m hm
    rw [session_join, hs, if_neg hm]
  · rw [session_join, hs, if_pos rfl]
    exact (hr.tidy _).welcome rfl hp hc
  · rw [session_join, hs, if_pos rfl]
    rfl
  · intro a
    rw [session_join, hs, if_pos rfl, Session.mem_bindings_welcome, or_comm]
    exact or_congr_right (iff_self_and.mpr (hne a))
  · intro seat a
    rw [get?_joined_join, joined_changeSession]
    show (if b.seat = seat then some b else r.joined.get? seat) = some a ↔ _
    split
    · rename_i hb
      simp [hb, eq_comm]
    · rename_i hb
      simp only [hb, false_and, ne_eq, not_false_eq_true, true_and, false_or]
      refine (and_iff_left_of_imp fun hj => ?_).symm
      rintro ⟨hsess, hpeer⟩
      exact hne a (hsess ▸ ((hr.joined seat a).mp hj).1) hpeer

/-- A roster stays sound when a peer comes new. -/
lemma sound_bindNew (hr : r.SoundBut (some b.session) none) (hlt : b.session < r.sessions.size)
    (hp : b.peer ∉ (r.session b.session).peers) (hc : (r.session b.session).closed = false) :
    (r.bindNew b).Sound := by
  have hset := settles_welcome hr hlt hp hc
  have hsound := hset.sound hr
  simp only [bindNew]
  cases hold : r.elsewhere b with
  | none =>
      rw [hold] at hsound
      exact hsound.congr rfl rfl rfl
  | some old =>
      rcases hset.mem_elsewhere hr hold with ⟨hmem, hpeer⟩
      rw [hold] at hsound
      rw [← hpeer]
      exact hsound.remove hmem

/-! ## A peer that is taken over -/

/-- A binding that takes the place of one on another connection settles. -/
lemma settles_replace (hr : r.Sound) (hold : old ∈ (r.session b.session).bindings)
    (hp : old.peer = b.peer) :
    Settles r (((r.changeSession b.session (·.replace b)).part old).join b) b := by
  have hlt : b.session < r.sessions.size := lt_size_of_mem hold
  have hs := session_changeSession hlt (·.replace b)
  have hmem : b.peer ∈ (r.session b.session).peers := Session.mem_peers.mpr ⟨old, hold, hp⟩
  refine ⟨?_, ?_, ?_, ?_, ?_, ?_, ?_⟩
  · rw [sessions_join, sessions_part, size_changeSession]
  · rw [table_join, table_part, table_changeSession]
  · intro m hm
    rw [session_join, session_part, hs, if_neg hm]
  · rw [session_join, session_part, hs, if_pos rfl]
    exact (hr.tidy _).replace rfl hmem
  · rw [session_join, session_part, hs, if_pos rfl]
    rfl
  · intro a
    rw [session_join, session_part, hs, if_pos rfl, Session.mem_bindings_replace]
    simp [hmem]
  · intro seat a
    rw [get?_joined_join, get?_joined_part, joined_changeSession]
    show (if b.seat = seat then some b else _) = some a ↔ _
    split
    · rename_i hb
      simp [hb, eq_comm]
    · rename_i hb
      simp only [hb, false_and, ne_eq, not_false_eq_true, true_and, false_or,
        Option.filter_eq_some_iff, decide_eq_true_eq, and_congr_right_iff, not_iff_not]
      intro ha
      rcases hr.joined_iff.mp ha with ⟨hmem, hseat⟩
      constructor
      · rintro ⟨rfl, -⟩
        exact ⟨(hr.tidy _).home a hold, hp⟩
      · rintro ⟨hsess, hpeer⟩
        have hao : a = old := (hr.tidy _).eq_of_peer_eq (hsess ▸ hmem) hold (hpeer.trans hp.symm)
        exact ⟨hao, hao ▸ hseat⟩

/-- Parting with the old binding does not change what the new connection holds elsewhere. -/
lemma elsewhere_part (hl : old.link ≠ b.link) :
    ((r.changeSession b.session (·.replace b)).part old).elsewhere b = r.elsewhere b := by
  have hne : old.seat ≠ b.seat := fun e => hl (Binding.seat_eq_iff.mp e).1
  ext a
  rw [elsewhere_eq_some_iff, elsewhere_eq_some_iff, get?_joined_part, joined_changeSession,
    Option.filter_eq_some_iff]
  show (_ ∧ decide (¬ (a = old ∧ old.seat = b.seat)) = true) ∧ _ ↔ _
  simp [hne]

/-- A roster stays sound when a peer is taken over. -/
lemma sound_takeOver (hr : r.Sound) (hold : old ∈ (r.session b.session).bindings)
    (hp : old.peer = b.peer) (hl : old.link ≠ b.link) : (r.takeOver old b).Sound := by
  have hset := settles_replace hr hold hp
  have hpend := SoundBut.weaken hr b.session
  have hsound := hset.sound hpend
  unfold takeOver
  dsimp only
  rw [elsewhere_part hl]
  cases helse : r.elsewhere b with
  | none =>
      rw [helse] at hsound
      exact hsound
  | some other =>
      rcases hset.mem_elsewhere hpend helse with ⟨hmem, hpeer⟩
      rw [helse] at hsound
      rw [← hpeer]
      exact SoundBut.remove (hsound.congr rfl rfl rfl) hmem

end Roster

end MeteredRelay
