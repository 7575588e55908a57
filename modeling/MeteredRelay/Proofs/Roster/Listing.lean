import MeteredRelay.Proofs.MemberSet
import MeteredRelay.Proofs.Roster.Changes

/-!
# Listings name those they go to

A listing goes to the peers that a session lists, and shows a bitmap that was written when a peer
came or went last.  Between the two stands the set of members, which is not sent.  Every change of
the bindings writes the bitmap anew, and no other change touches what it was written from, so it is
never stale (`Session.Fresh`).  This includes sets that grew larger than a message: then nothing is
kept, and the next change that leaves a set of a proper size writes it.

**`listing_names_destinations`** says when there is a listing, and that the ids that a reader finds
in its bitmap are the peers of its destinations, each once.
-/

namespace MeteredRelay

namespace Session

/-- The bitmap is the one that would be written now, or nobody came yet. -/
def Fresh (s : Session) : Prop :=
  s.written = s.writeMembers.written ∨ s.written.get = [] ∧ s.bindings = []

variable {s t : Session} {now : Instant} {spacing : Span} {l : Listing}

/-- Whether a bitmap is fresh is about the members and the bindings. -/
lemma Fresh.congr (h : s.Fresh) (hw : t.written = s.written) (hm : t.members = s.members)
    (hb : t.bindings = s.bindings) : t.Fresh := by
  rw [Fresh, writeMembers, hw, hm, hb]
  exact h

/-- Every change of a session keeps its bitmap fresh. -/
lemma Fresh.step (h : s.Fresh) (hc : s.Changes t) : t.Fresh := by
  cases hc with
  | welcome | replace | noteMember | remove => exact .inl rfl
  | ban | rename => exact h.congr rfl rfl rfl
  | liftBan =>
      unfold liftBan
      split
      · exact h
      · exact h.congr rfl rfl rfl
  | markListed =>
      unfold markListed
      split
      · exact h.congr rfl rfl rfl
      · exact h

/-- What a listing is made of. -/
lemma listing?_eq_some_iff : s.listing? now spacing = some l ↔
    s.isListingDue now spacing = true ∧ s.written.get ≠ [] ∧
      l = ⟨s.destinations, s.written.get⟩ := by
  rw [listing?, bitmap?]
  by_cases hd : s.isListingDue now spacing = true
  · by_cases hw : s.written.get = []
    · simp [hw]
    · simp only [hd, List.isEmpty_iff, hw, if_true, if_false, Option.map_some, Option.some.injEq,
        ne_eq, not_false_eq_true, true_and]
      exact eq_comm
  · simp [hd]

/-- Where somebody is bound, a fresh bitmap was written exactly if the members fit into a message. -/
lemma Fresh.written_ne_nil_iff (h : s.Fresh) (hb : s.bindings ≠ []) :
    s.written.get ≠ [] ↔ s.members.byteSize ≤ maxMessageSize := by
  rcases h with h | ⟨-, hnil⟩
  · rw [h, writeMembers]
    split
    · exact iff_of_true s.members.bitmap_ne_nil ‹_›
    · exact iff_of_false (not_not.mpr rfl) ‹_›
  · exact absurd hnil hb

/-- A bitmap that was written and is fresh is that of the members, and these fit into a message. -/
lemma Fresh.written_eq (h : s.Fresh) (hw : s.written.get ≠ []) :
    s.written.get = s.members.bitmap ∧ s.members.byteSize ≤ maxMessageSize := by
  rcases h with h | ⟨hnil, -⟩
  · rw [h, writeMembers] at hw ⊢
    by_cases hfits : s.members.byteSize ≤ maxMessageSize
    · exact ⟨if_pos hfits, hfits⟩
    · exact absurd (if_neg hfits) hw
  · exact absurd hnil hw

/-- A reader finds the members in it. -/
lemma Fresh.read?_written (h : s.Fresh) (hw : s.written.get ≠ []) :
    MemberSet.read? s.written.get = some s.members.ids := by
  rw [(h.written_eq hw).1]
  exact s.members.read?_bitmap

/-- The peers of the destinations are those that the session lists. -/
lemma peers_destinations (s : Session) : s.destinations.map (·.peer) = s.peers := by
  rw [destinations, List.map_map]
  rfl

end Session

namespace Roster

/-- Every bitmap of a reachable roster is fresh. -/
theorem fresh_run (env : Environment) (acts : List (Moment × Act)) (n : SessionNo) :
    ((empty.run env acts).session n).Fresh :=
  session_induction (.inr ⟨rfl, rfl⟩) Session.Fresh.step env acts n

/-- **Every listing names those it goes to.**  After any run, whenever a session is listed, the
listing goes to every binding of the session and to no peer twice, and a reader of its bitmap finds
the peers that it goes to and no other.  A session with somebody in it is listed exactly if a
listing is due and its members fit into a message. -/
theorem listing_names_destinations (env : Environment) (acts : List (Moment × Act)) (n : SessionNo)
    (now : Instant) (spacing : Span) :
    let s := (empty.run env acts).session n
    (∀ l, s.listing? now spacing = some l →
      l.destinations = s.bindings.map (fun b => ⟨b.peer, b.link⟩) ∧
      (l.destinations.map (·.peer)).Nodup ∧
      ∃ ids, MemberSet.read? l.bitmap = some ids ∧ ids.Pairwise (· < ·) ∧
        ∀ p : PeerId, p.value ∈ ids ↔ p ∈ l.destinations.map (·.peer)) ∧
    (s.bindings ≠ [] → ((s.listing? now spacing).isSome = true ↔
      s.isListingDue now spacing = true ∧ s.members.byteSize ≤ maxMessageSize)) := by
  intro s
  have hfresh : s.Fresh := fresh_run env acts n
  have htidy : s.Tidy n := (sound_run env acts).tidy n
  constructor
  · intro l hl
    obtain ⟨-, hw, rfl⟩ := Session.listing?_eq_some_iff.mp hl
    refine ⟨rfl, ?_, s.members.ids, hfresh.read?_written hw, s.members.ascending, ?_⟩
    · rw [Session.peers_destinations]
      exact htidy.distinct
    · intro p
      rw [Session.peers_destinations, ← htidy.members p, MemberSet.contains,
        List.contains_iff_mem]
  · intro hb
    simp only [Option.isSome_iff_exists, Session.listing?_eq_some_iff,
      ← hfresh.written_ne_nil_iff hb]
    constructor
    · rintro ⟨l, hd, hw, -⟩
      exact ⟨hd, hw⟩
    · rintro ⟨hd, hw⟩
      exact ⟨_, hd, hw, rfl⟩

end Roster

end MeteredRelay
