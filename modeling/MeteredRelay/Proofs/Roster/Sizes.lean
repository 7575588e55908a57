import MeteredRelay.Proofs.Roster.Lasting

/-!
# The size of a session

Each binding has the size that its grant named, and a peer that comes again with another size is
refused.  But nothing compares the sizes of two peers: a session has an id and no size of its own,
and a rotation gives it another id by a cookie whose size nobody checks against the bindings.

Sizes and ids go together all the same if grants and rotations keep to one rule.  `Sized` says that
the size of each binding is one that its session's id allows.  A bind keeps this if the id in its
grant allows the size in it, and a rotation if the new id allows what the old one did
(**`Sized.act`**).  If an id allows one size only, then no peer comes again with another
(`Sized.bind_ne`).
-/

namespace MeteredRelay

namespace Roster

variable {env : Environment} {r : Roster} {n : SessionNo} {link : LinkNo} {g : Grant} {a : Act}
  {allows : SessionId → Nat → Prop}

/-- Each binding has a size that the id of its session allows. -/
def Sized (allows : SessionId → Nat → Prop) (r : Roster) : Prop :=
  ∀ n, ∀ b ∈ (r.session n).bindings, allows (r.session n).id b.size

/-- An act keeps to the rule: grants name an id that allows their size, and rotation cookies name
ids of which the second allows what the first does. -/
structure Act.Regular (env : Environment) (allows : SessionId → Nat → Prop) (a : Act) : Prop where
  bind : ∀ link peer g, a = .bind link peer g → allows g.session g.size.toNat
  rotate : ∀ link source message c, a = .rotate link source message →
    Rotation.openedCookie env message = .ok c →
    ∀ size, allows (Rotation.oldId env c) size → allows (Rotation.newId env c) size

namespace Sized

/-- A rotation moves a session to an id that allows what the old one did. -/
lemma rotates {source : PeerId} {message : Bytes} {r' : Roster} {outcome : Except RelayFault Unit}
    (hrot : Rotates env r link source message r' outcome) (hr : r.Sound)
    (hrule : ∀ c, Rotation.openedCookie env message = .ok c →
      ∀ size, allows (Rotation.oldId env c) size → allows (Rotation.newId env c) size)
    {size : Nat} (h : allows (r.session n).id size) : allows (r'.session n).id size := by
  cases hrot with
  | refused => exact h
  | spent => exact h
  | moved ledger hb hc hold hl hnew =>
      rename_i admin c
      have hne : (r.session admin.session).bindings ≠ [] :=
        List.ne_nil_of_mem (hr.joined_iff.mp hb).1
      rw [session_rename (r := { r with ledger }) hne]
      split
      · rename_i hn
        subst hn
        rw [hold] at h
        exact hrule c hc size h
      · exact h

/-- **Acts that keep to the rule keep sizes and ids together.** -/
theorem act (h : r.Sized allows) (hr : r.Sound) (now : Moment) (ha : a.Regular env allows) :
    (r.act env now a).Sized allows := by
  intro n b hb
  have hr' : (r.act env now a).Sound := sound_act now a hr
  obtain rfl : b.session = n := (hr'.tidy n).home b hb
  rcases joined_act hr (hr'.joined_of_mem hb) with hold | ⟨g, hbind, hok, hsize⟩
  · have hlisted := (hr.joined_iff.mp hold).1
    have hallows := h b.session b hlisted
    rcases id_act hr env now a (lt_size_of_mem hlisted) with hid | ⟨link, source, message, rfl⟩
    · rwa [hid]
    · exact rotates (rotates_rotate hr env now link source message) hr
        (fun c hc => ha.rotate link source message c rfl hc) hallows
  · have hbinds := binds_bind hr now.instant b.link b.peer g
    rw [hok] at hbinds
    have hid : ((r.act env now a).session b.session).id = g.session := by
      rw [hbind]
      exact hbinds.session_id hr
    rw [hid, hsize]
    exact ha.bind b.link b.peer g hbind

/-- Where an id allows one size only, a grant that keeps to the rule is not refused for its size. -/
lemma bind_ne (h : r.Sized allows) (hr : r.Sound)
    (honly : ∀ {id size other}, allows id size → allows id other → size = other)
    (hg : allows g.session g.size.toNat) (now : Instant) (link : LinkNo) (peer : PeerId)
    (bound requested : Nat) :
    (r.bind now link peer g).2 ≠ .error (.sizeMismatch bound requested) := by
  intro hrefused
  have hbinds := binds_bind hr now link peer g
  rw [hrefused] at hbinds
  generalize (r.bind now link peer g).1 = r' at hbinds
  cases hbinds with
  | mismatched hn hban hb hs =>
      rename_i n b
      have hallows := h n b (Session.mem_of_find? hb)
      rw [(hr.keyed _ n hn).2] at hallows
      exact hs (honly hallows hg)

end Sized

end Roster

end MeteredRelay
