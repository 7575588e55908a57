import MeteredRelay.Proofs.Roster.Frame

/-!
# Sound rosters

A roster says of each binding three things in different places: its session lists it, its connection
knows it, and the table leads to its session.  **`Roster.Sound`** says that these agree.

An operation cannot change all places at once, so in its midst a roster is sound but for two things:
a session that was just made has nobody in it yet, and a session may still list a binding that its
connection no longer knows.  `SoundBut` names the two.  An operation ends when the session is
inhabited (`SoundBut.resolve`) and the binding has left its session (`SoundBut.remove`).
-/

namespace MeteredRelay

namespace Binding

/-- The place of a binding's peer on its connection. -/
def seat (b : Binding) : Seat := ⟨b.link, b.peer⟩

lemma seat_eq_iff {a b : Binding} : a.seat = b.seat ↔ a.link = b.link ∧ a.peer = b.peer := by
  simp [seat]

end Binding

namespace Roster

/-- The places that speak of bindings agree, except that a pending session may have an entry in the
table and nobody in it, and that a ghost is listed by its session and not known to its
connection. -/
structure SoundBut (pending : Option SessionNo) (ghost : Option Binding) (r : Roster) : Prop where
  tidy : ∀ n, (r.session n).Tidy n
  /-- A connection knows a binding exactly if the session of the binding lists it. -/
  joined : ∀ seat b, r.joined.get? seat = some b ↔
    b ∈ (r.session b.session).bindings ∧ b.seat = seat ∧ ghost ≠ some b
  /-- The table leads to sessions under their present ids. -/
  keyed : ∀ id n, r.table.get? id = some n → n < r.sessions.size ∧ (r.session n).id = id
  /-- The table leads to sessions with somebody in them. -/
  inhabited : ∀ id n, r.table.get? id = some n →
    pending = some n ∨ (r.session n).bindings ≠ []

/-- The places that speak of bindings agree. -/
abbrev Sound (r : Roster) : Prop := SoundBut none none r

variable {r r' : Roster} {pending : Option SessionNo} {ghost : Option Binding} {n m : SessionNo}
  {a b old : Binding} {f : Session → Session} {id : SessionId} {seat : Seat}

namespace Sound

/-- A connection knows a binding exactly if the session of the binding lists it. -/
lemma joined_iff (h : r.Sound) :
    r.joined.get? seat = some b ↔ b ∈ (r.session b.session).bindings ∧ b.seat = seat := by
  rw [h.joined]
  simp

/-- A binding that a session lists is known to its connection. -/
lemma joined_of_mem (h : r.Sound) (hb : b ∈ (r.session n).bindings) :
    r.joined.get? b.seat = some b := by
  have hn : b.session = n := (h.tidy n).home b hb
  exact h.joined_iff.mpr ⟨hn ▸ hb, rfl⟩

/-- The connection of a peer that a session lists knows its binding. -/
lemma binding?_of_find? (h : r.Sound) {p : PeerId} (hb : (r.session n).find? p = some b) :
    r.binding? b.link p = some b := by
  have hknown := h.joined_of_mem (Session.mem_of_find? hb)
  rwa [Binding.seat, Session.peer_of_find? hb] at hknown

/-- A listed binding is the only one in its seat. -/
lemma eq_of_seat_eq (h : r.Sound) (ha : a ∈ (r.session n).bindings)
    (hb : b ∈ (r.session m).bindings) (hs : a.seat = b.seat) : a = b := by
  have hab := h.joined_of_mem ha
  rw [hs, h.joined_of_mem hb] at hab
  exact (Option.some.inj hab).symm

lemma ne_nil_of_table (h : r.Sound) (hn : r.table.get? id = some n) :
    (r.session n).bindings ≠ [] :=
  (h.inhabited id n hn).resolve_left nofun

/-- A session in the table is not closed. -/
lemma closed_eq_false (h : r.Sound) (hn : r.table.get? id = some n) :
    (r.session n).closed = false := by
  rw [Bool.eq_false_iff]
  intro hc
  exact h.ne_nil_of_table hn ((h.tidy n).closed hc)

end Sound

namespace SoundBut

/-! ## Changes that leave the bindings alone -/

/-- Soundness is about sessions, table and connections. -/
lemma congr (h : r.SoundBut pending ghost) (hs : r'.sessions = r.sessions)
    (ht : r'.table = r.table) (hj : r'.joined = r.joined) : r'.SoundBut pending ghost := by
  have hsess : ∀ n, r'.session n = r.session n := session_congr hs
  exact
    { tidy := fun n => by rw [hsess]; exact h.tidy n
      joined := fun seat b => by rw [hsess, hj]; exact h.joined seat b
      keyed := fun id n hn => by rw [hsess, hs]; exact h.keyed id n (ht ▸ hn)
      inhabited := fun id n hn => by rw [hsess]; exact h.inhabited id n (ht ▸ hn) }

/-- A session may change in what the other places do not speak of. -/
lemma changeSession (h : r.SoundBut pending ghost) (hb : ∀ s, (f s).bindings = s.bindings)
    (hi : ∀ s, (f s).id = s.id) (ht : ((r.changeSession n f).session n).Tidy n) :
    (r.changeSession n f).SoundBut pending ghost := by
  have hbind := session_changeSession_congr (r := r) Session.bindings hb n
  have hid := session_changeSession_congr (r := r) Session.id hi n
  refine ⟨?_, ?_, ?_, ?_⟩
  · intro m
    by_cases hm : m = n
    · rw [hm]
      exact ht
    · rw [session_changeSession_of_ne hm]
      exact h.tidy m
  · intro seat b
    rw [hbind, joined_changeSession]
    exact h.joined seat b
  · intro id m hm
    rw [hid, size_changeSession]
    exact h.keyed id m hm
  · intro id m hm
    rw [hbind]
    exact h.inhabited id m hm

/-- A session may change in what listings and bans are about. -/
lemma changeSession_frame (h : r.SoundBut pending ghost)
    (hb : ∀ s, (f s).bindings = s.bindings) (hm : ∀ s, (f s).members = s.members)
    (hc : ∀ s, (f s).closed = s.closed) (hi : ∀ s, (f s).id = s.id) :
    (r.changeSession n f).SoundBut pending ghost :=
  h.changeSession hb hi <| (h.tidy n).congr
    (session_changeSession_congr Session.bindings hb n n)
    (session_changeSession_congr Session.members hm n n)
    (session_changeSession_congr Session.closed hc n n)

/-! ## Beginning and ending an operation -/

/-- Any session may be pending. -/
lemma weaken (h : r.Sound) (n : SessionNo) : r.SoundBut (some n) none :=
  { h with inhabited := fun _ _ hm => .inr (h.ne_nil_of_table hm) }

/-- A session that somebody is in is pending no more. -/
lemma resolve (h : r.SoundBut (some n) ghost) (hn : (r.session n).bindings ≠ []) :
    r.SoundBut none ghost :=
  { h with
    inhabited := by
      intro id m hm
      rcases h.inhabited id m hm with hp | hb
      · cases hp
        exact .inr hn
      · exact .inr hb }

/-- A connection forgets a binding. -/
lemma haunt (h : r.Sound) (hb : b ∈ (r.session b.session).bindings)
    (hs : r'.sessions = r.sessions) (ht : r'.table = r.table)
    (hj : r'.joined = r.joined.erase b.seat) : r'.SoundBut none (some b) := by
  have hsess : ∀ n, r'.session n = r.session n := session_congr hs
  refine ⟨?_, ?_, ?_, ?_⟩
  · intro n
    rw [hsess]
    exact h.tidy n
  · intro seat a
    rw [hj, Table.get?_erase, hsess]
    split
    · rename_i hseat
      refine iff_of_false (Option.some_ne_none a).symm ?_
      rintro ⟨ha, has, hne⟩
      exact hne (congrArg some (h.eq_of_seat_eq hb ha (hseat.trans has.symm)))
    · rename_i hseat
      rw [h.joined_iff, and_congr_right_iff]
      refine fun _ => ⟨fun has => ⟨has, ?_⟩, And.left⟩
      rintro hab
      cases hab
      exact hseat has
  · intro id n hn
    rw [hsess, hs]
    exact h.keyed id n (ht ▸ hn)
  · intro id n hn
    rw [hsess]
    exact h.inhabited id n (ht ▸ hn)

/-- A ghost leaves its session. -/
lemma remove (h : r.SoundBut pending (some old)) (hold : old ∈ (r.session old.session).bindings) :
    (r.remove old.session old.peer).SoundBut pending none := by
  have hsess := session_remove (lt_size_of_mem hold) old.peer
  refine ⟨?_, ?_, ?_, ?_⟩
  · intro m
    rw [hsess]
    split
    · rename_i hm
      rw [hm]
      exact (h.tidy _).remove
    · exact h.tidy m
  · intro seat a
    rw [joined_remove, h.joined, hsess]
    split
    · rename_i hm
      rw [Session.mem_bindings_remove, hm]
      constructor
      · rintro ⟨ha, hs, hne⟩
        refine ⟨⟨ha, fun hp => hne ?_⟩, hs, nofun⟩
        rw [(h.tidy _).eq_of_peer_eq ha hold hp]
      · rintro ⟨⟨ha, hp⟩, hs, -⟩
        exact ⟨ha, hs, fun e => hp (by cases e; rfl)⟩
    · rename_i hm
      have hne : some old ≠ some a := fun e => hm (by cases e; rfl)
      simp [hne]
  · intro id m hm
    rw [get?_table_remove (lt_size_of_mem hold), Option.filter_eq_some_iff] at hm
    rcases h.keyed id m hm.1 with ⟨hlt, hid⟩
    rw [size_remove, hsess]
    refine ⟨hlt, ?_⟩
    split
    · rename_i he
      subst he
      exact hid
    · exact hid
  · intro id m hm
    rw [get?_table_remove (lt_size_of_mem hold), Option.filter_eq_some_iff, decide_eq_true_eq] at hm
    rw [hsess]
    split
    · rename_i he
      subst he
      exact .inr fun hnil => hm.2 ⟨rfl, (h.keyed id _ hm.1).2, hnil⟩
    · exact h.inhabited id m hm.1

end SoundBut

end Roster

end MeteredRelay
