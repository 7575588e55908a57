import Mathlib.Data.List.Basic
import Mathlib.Data.List.Nodup
import Mathlib.Tactic.Common
import MeteredRelay.Session

/-!
# What a session keeps in order

A session says three times who is in it: by the list of its bindings, by the set that listings are
made of, and by whether it is closed.  `Session.Tidy` says that the three agree and that no peer is
listed twice, and the lemmas of this file say that each change of a session keeps it tidy.  Two of
them ask for something: a binding may only be welcomed where its peer is not yet bound
(`Tidy.welcome`), and may only replace one of the same peer (`Tidy.replace`).
-/

namespace MeteredRelay

/-! ## Sets of members -/

namespace MemberSet

@[simp] lemma contains_empty (p : PeerId) : empty.contains p = false := rfl

lemma value_eq_iff {p q : PeerId} : p.value = q.value ↔ p = q :=
  ⟨fun h => by cases p; cases q; cases h; rfl, congrArg _⟩

@[simp] lemma contains_insert {s : MemberSet} {p q : PeerId} :
    (s.insert p).contains q = true ↔ q = p ∨ s.contains q = true := by
  simp only [contains, insert, List.contains_iff_mem, mem_put, value_eq_iff]

/-- A peer that is erased is gone, and it alone. -/
@[simp] lemma contains_erase {s : MemberSet} {p q : PeerId} :
    (s.erase p).contains q = true ↔ s.contains q = true ∧ q ≠ p := by
  simp only [contains, erase, List.contains_iff_mem, List.mem_filter, ne_eq, value_eq_iff,
    decide_not, Bool.not_eq_eq_eq_not, Bool.not_true, decide_eq_false_iff_not]

end MemberSet

namespace Session

/-- The peers of the bindings, in their order. -/
def peers (s : Session) : List PeerId := s.bindings.map (·.peer)

/-- A session, under its number, whose views of its members agree. -/
structure Tidy (n : SessionNo) (s : Session) : Prop where
  /-- Every binding is one of this session. -/
  home : ∀ b ∈ s.bindings, b.session = n
  /-- No peer is listed twice. -/
  distinct : s.peers.Nodup
  /-- The set of members is the set of the listed peers. -/
  members : ∀ p, s.members.contains p = true ↔ p ∈ s.peers
  /-- A closed session has nobody in it. -/
  closed : s.closed = true → s.bindings = []

variable {n : SessionNo} {s t : Session} {p : PeerId} {a b : Binding}

/-! ## Finding a peer -/

lemma mem_peers : p ∈ s.peers ↔ ∃ b ∈ s.bindings, b.peer = p := List.mem_map

/-- A search fails only for a peer that has no binding. -/
lemma find?_eq_none_iff : s.find? p = none ↔ p ∉ s.peers := by
  simp [find?, peers]

lemma mem_of_find? (h : s.find? p = some b) : b ∈ s.bindings := List.mem_of_find?_eq_some h

lemma peer_of_find? (h : s.find? p = some b) : b.peer = p := by
  simpa using List.find?_some h

lemma mem_peers_of_find? (h : s.find? p = some b) : p ∈ s.peers :=
  mem_peers.mpr ⟨b, mem_of_find? h, peer_of_find? h⟩

/-- In a tidy session a peer names its binding. -/
lemma Tidy.eq_of_peer_eq (h : s.Tidy n) (ha : a ∈ s.bindings) (hb : b ∈ s.bindings)
    (hp : a.peer = b.peer) : a = b :=
  List.inj_on_of_nodup_map h.distinct ha hb hp

/-- In a tidy session the binding of a peer is the one that a search finds. -/
lemma Tidy.find?_eq (h : s.Tidy n) (hb : b ∈ s.bindings) : s.find? b.peer = some b := by
  cases hfound : s.find? b.peer with
  | none => exact absurd (mem_peers.mpr ⟨b, hb, rfl⟩) (find?_eq_none_iff.mp hfound)
  | some a => rw [h.eq_of_peer_eq (mem_of_find? hfound) hb (peer_of_find? hfound)]

/-! ## Changes keep a session tidy -/

lemma tidy_start (id : SessionId) : (start id).Tidy n where
  home := by simp [start]
  distinct := by simp [start, peers]
  members := by simp [start, peers]
  closed := by simp [start]

/-- Tidiness is about the bindings, the set of members and whether the session is closed. -/
lemma Tidy.congr (h : s.Tidy n) (hb : t.bindings = s.bindings) (hm : t.members = s.members)
    (hc : t.closed = s.closed) : t.Tidy n where
  home := by rw [hb]; exact h.home
  distinct := by rw [peers, hb]; exact h.distinct
  members := by rw [peers, hb, hm]; exact h.members
  closed := by rw [hb, hc]; exact h.closed

/-- A new binding comes last in the list. -/
@[simp] lemma peers_welcome : (s.welcome b).peers = s.peers ++ [b.peer] := by
  simp [welcome, peers]

/-- A binding that is replaced keeps its place in the list. -/
@[simp] lemma peers_replace : (s.replace b).peers = s.peers := by
  simp only [peers, replace, bindings_writeMembers, List.map_map]
  refine List.map_congr_left fun a _ => ?_
  simp only [Function.comp_apply]
  split
  · rename_i h
    exact h.symm
  · rfl

@[simp] lemma peers_remove : (s.remove p).peers = s.peers.filter (· ≠ p) := by
  simp only [peers, remove, List.filter_map]
  rfl

@[simp] lemma mem_bindings_replace :
    a ∈ (s.replace b).bindings ↔
      (a = b ∧ b.peer ∈ s.peers) ∨ (a ∈ s.bindings ∧ a.peer ≠ b.peer) := by
  simp only [replace, bindings_writeMembers, List.mem_map, mem_peers]
  constructor
  · rintro ⟨c, hc, rfl⟩
    split
    · exact .inl ⟨rfl, c, hc, ‹_›⟩
    · exact .inr ⟨hc, ‹_›⟩
  · rintro (⟨rfl, c, hc, hp⟩ | ⟨ha, hp⟩)
    · exact ⟨c, hc, if_pos hp⟩
    · exact ⟨a, ha, if_neg hp⟩

/-- A peer that is not bound may come. -/
lemma Tidy.welcome (h : s.Tidy n) (hb : b.session = n) (hp : b.peer ∉ s.peers)
    (hc : s.closed = false) : (s.welcome b).Tidy n where
  home := by
    intro a ha
    rcases mem_bindings_welcome.mp ha with ha | rfl
    · exact h.home a ha
    · exact hb
  distinct := by
    rw [peers_welcome, List.nodup_append]
    refine ⟨h.distinct, by simp, ?_⟩
    rintro q hq q' hq' rfl
    exact hp (List.mem_singleton.mp hq' ▸ hq)
  members := by
    intro q
    rw [peers_welcome, List.mem_append, List.mem_singleton, ← h.members q, or_comm]
    exact MemberSet.contains_insert
  closed := by
    intro hw
    simp [Session.welcome, hc] at hw

/-- A binding may take the place of one of the same peer. -/
lemma Tidy.replace (h : s.Tidy n) (hb : b.session = n) (hp : b.peer ∈ s.peers) :
    (s.replace b).Tidy n where
  home := by
    intro a ha
    rcases mem_bindings_replace.mp ha with ⟨rfl, -⟩ | ⟨ha, -⟩
    · exact hb
    · exact h.home a ha
  distinct := by rw [peers_replace]; exact h.distinct
  members := by
    intro q
    rw [peers_replace, ← h.members q]
    simp only [Session.replace, members_writeMembers, MemberSet.contains_insert,
      or_iff_right_iff_imp]
    rintro rfl
    exact (h.members _).mpr hp
  closed := by
    intro hc
    simp [Session.replace, h.closed hc]

/-- A peer that is bound may be noted again. -/
lemma Tidy.noteMember (h : s.Tidy n) (hp : p ∈ s.peers) : (s.noteMember p).Tidy n where
  home := h.home
  distinct := h.distinct
  members := by
    intro q
    show (s.members.insert p).contains q = true ↔ q ∈ s.peers
    rw [MemberSet.contains_insert, h.members q]
    refine or_iff_right_iff_imp.mpr ?_
    rintro rfl
    exact hp
  closed := h.closed

/-- Any peer may leave. -/
lemma Tidy.remove (h : s.Tidy n) : (s.remove p).Tidy n where
  home := fun b hb => h.home b (mem_bindings_remove.mp hb).1
  distinct := by rw [peers_remove]; exact h.distinct.filter _
  members := by
    intro q
    rw [peers_remove, List.mem_filter, ← h.members q]
    simp [Session.remove]
  closed := by
    intro hc
    simp only [Session.remove, bindings_writeMembers, closed_writeMembers, Bool.or_eq_true,
      List.isEmpty_iff] at hc ⊢
    rcases hc with hc | hc
    · rw [h.closed hc]; rfl
    · exact hc

end Session

end MeteredRelay
