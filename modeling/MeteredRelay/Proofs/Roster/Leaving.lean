import MeteredRelay.Proofs.Roster.Ban
import MeteredRelay.Proofs.Roster.Orderly

/-!
# Those who leave and those who stay

Whoever leaves is taken from the list of the session, from the connection and, if nobody is left
there, the session is taken from the table.  `Leaves` says this of any number of bindings at once,
and that nothing else has changed: those who stay are listed in their order and known to their
connections, their sessions keep their entries, and nothing is paid.

Several leaves one after the other are one (`Leaves.trans`), although a session may be emptied only
by the last of them: an entry stays exactly if somebody is left in its session, and that can be
asked once at the end.  So it is enough to look at one peer that leaves (`leaves_leave`), and to
collect all peers of a connection (**`leaves_leaveAll`**).
-/

namespace MeteredRelay

namespace Roster

variable {r r' x : Roster} {n m : SessionNo} {a b : Binding} {peer : PeerId} {link : LinkNo}
  {id : SessionId} {gone gone' : Binding → Bool} {seat : Seat}

/-- Some bindings are gone, and the others are as they were. -/
structure Leaves (gone : Binding → Bool) (r r' : Roster) : Prop where
  size : r'.sessions.size = r.sessions.size
  /-- The sessions list those who stay, in their order. -/
  bindings : ∀ n, (r'.session n).bindings = (r.session n).bindings.filter (!gone ·)
  /-- The connections know those who stay. -/
  joined : ∀ seat, r'.joined.get? seat = (r.joined.get? seat).filter (!gone ·)
  /-- An entry stays if somebody is left in its session. -/
  table : ∀ id n, r'.table.get? id = some n ↔
    r.table.get? id = some n ∧ (r'.session n).bindings ≠ []
  /-- A session that nobody leaves is as it was. -/
  untouched : ∀ n, (∀ b ∈ (r.session n).bindings, gone b = false) → r'.session n = r.session n
  id : ∀ n, (r'.session n).id = (r.session n).id
  lastListing : ∀ n, (r'.session n).lastListing = (r.session n).lastListing
  till : r'.till = r.till

/-- A binding that a session lists sits where another is known only if it is that one. -/
lemma Sound.seat_eq_iff (hr : r.Sound) (hb : r.joined.get? seat = some b)
    (ha : a ∈ (r.session n).bindings) : a.seat = seat ↔ a = b := by
  constructor
  · rintro rfl
    exact Option.some.inj ((hr.joined_of_mem ha).symm.trans hb)
  · rintro rfl
    exact (hr.joined_iff.mp hb).2

namespace Leaves

/-- Nobody is gone. -/
lemma refl (hr : r.Sound) (hnone : ∀ n, ∀ b ∈ (r.session n).bindings, gone b = false) :
    Leaves gone r r where
  size := rfl
  bindings n := (List.filter_eq_self.mpr fun b hb => by simp [hnone n b hb]).symm
  joined seat := by
    cases hb : r.joined.get? seat with
    | none => rfl
    | some b => simp [Option.filter_some, hnone _ b (hr.joined_iff.mp hb).1]
  table id n := ⟨fun h => ⟨h, hr.ne_nil_of_table h⟩, And.left⟩
  untouched _ _ := rfl
  id _ := rfl
  lastListing _ := rfl
  till := rfl

/-- Some are gone, and then some of the others. -/
lemma trans (h : Leaves gone r x) (h' : Leaves gone' x r') :
    Leaves (fun b => gone b || gone' b) r r' where
  size := h'.size.trans h.size
  bindings n := by
    rw [h'.bindings, h.bindings, List.filter_filter]
    exact List.filter_congr fun b _ => by rw [Bool.not_or, Bool.and_comm]
  joined seat := by
    rw [h'.joined, h.joined]
    cases r.joined.get? seat with
    | none => rfl
    | some b => cases hgone : gone b <;> simp [Option.filter_some, hgone]
  table id n := by
    rw [h'.table, h.table, and_assoc, and_congr_right_iff]
    refine fun _ => ⟨And.right, fun hne => ⟨fun hnil => hne ?_, hne⟩⟩
    rw [h'.bindings, hnil, List.filter_nil]
  untouched n hstay := by
    have hfirst := h.untouched n fun b hb => (Bool.or_eq_false_iff.mp (hstay b hb)).1
    rw [h'.untouched n, hfirst]
    rw [hfirst]
    exact fun b hb => (Bool.or_eq_false_iff.mp (hstay b hb)).2
  id n := (h'.id n).trans (h.id n)
  lastListing n := (h'.lastListing n).trans (h.lastListing n)
  till := h'.till.trans h.till

/-- Who is gone matters among those who were bound. -/
lemma congr (h : Leaves gone r r') (hr : r.Sound)
    (hsame : ∀ n, ∀ b ∈ (r.session n).bindings, gone b = gone' b) : Leaves gone' r r' :=
  { h with
    bindings := fun n => by
      rw [h.bindings]
      exact List.filter_congr fun b hb => by rw [hsame n b hb]
    joined := fun seat => by
      rw [h.joined]
      cases hb : r.joined.get? seat with
      | none => rfl
      | some b => rw [Option.filter_some, Option.filter_some, hsame _ b (hr.joined_iff.mp hb).1]
    untouched := fun n hstay => h.untouched n fun b hb => (hsame n b hb).trans (hstay b hb) }

end Leaves

/-! ## One peer -/

section

variable (hb : r.joined.get? ⟨link, peer⟩ = some b)
include hb

lemma joined_leave : (r.leave link peer).1.joined = r.joined.erase ⟨link, peer⟩ := by
  simp only [leave, hb, joined_remove]

/-- The entry of a session goes with its last peer, and no other does. -/
lemma get?_table_leave (hlt : b.session < r.sessions.size) :
    (r.leave link peer).1.table.get? id = (r.table.get? id).filter fun m =>
      ¬ (m = b.session ∧ (r.session b.session).id = id ∧
        ((r.session b.session).remove b.peer).bindings = []) := by
  simp only [leave, hb]
  exact get?_table_remove hlt

/-- The sessions list all but the one that left. -/
lemma bindings_leave (hr : r.Sound) (n : SessionNo) :
    ((r.leave link peer).1.session n).bindings =
      (r.session n).bindings.filter fun a => !decide (a.seat = ⟨link, peer⟩) := by
  have hmem := (hr.joined_iff.mp hb).1
  rw [session_leave hb (lt_size_of_mem hmem)]
  split
  · rename_i hn
    refine List.filter_congr fun a ha => ?_
    rw [decide_not, decide_eq_decide.mpr]
    rw [hr.seat_eq_iff hb ha]
    exact ⟨(hr.tidy n).eq_of_peer_eq ha (hn ▸ hmem), congrArg _⟩
  · rename_i hn
    refine (List.filter_eq_self.mpr fun a ha => ?_).symm
    rw [Bool.not_eq_true', decide_eq_false_iff_not, hr.seat_eq_iff hb ha]
    rintro rfl
    exact hn ((hr.tidy n).home a ha).symm

end

/-- **Whoever sat in a place leaves it, and nobody else leaves.** -/
theorem leaves_leave (hr : r.Sound) (link : LinkNo) (peer : PeerId) :
    Leaves (fun b => decide (b.seat = ⟨link, peer⟩)) r (r.leave link peer).1 := by
  cases hb : r.joined.get? ⟨link, peer⟩ with
  | none =>
      rw [leave_of_none hb]
      refine .refl hr fun n a ha => decide_eq_false fun hseat => ?_
      rw [← hseat, hr.joined_of_mem ha] at hb
      contradiction
  | some b =>
      have hmem := (hr.joined_iff.mp hb).1
      have hlt := lt_size_of_mem hmem
      constructor
      case size => simp only [leave, hb, size_remove]
      case bindings => exact bindings_leave hb hr
      case joined =>
        intro seat
        rw [joined_leave hb, Table.get?_erase]
        cases ha : r.joined.get? seat with
        | none => simp
        | some a =>
            rw [Option.filter_some, (hr.joined_iff.mp ha).2]
            by_cases hseat : seat = ⟨link, peer⟩
            · simp [hseat]
            · simp [hseat, Ne.symm hseat]
      case table =>
        intro id n
        rw [get?_table_leave hb hlt, Option.filter_eq_some_iff, decide_eq_true_eq,
          and_congr_right_iff]
        intro hn
        rw [session_leave hb hlt]
        split
        · rename_i he
          subst he
          simp [(hr.keyed id _ hn).2]
        · rename_i he
          exact iff_of_true (fun h => he h.1) (hr.ne_nil_of_table hn)
      case untouched =>
        intro n hstay
        rw [session_leave hb hlt, if_neg]
        rintro rfl
        exact of_decide_eq_false (hstay b hmem) ((hr.seat_eq_iff hb hmem).mpr rfl)
      case id => exact fun n => lasting_id.session_leave
      case lastListing => exact fun n => lasting_lastListing.session_leave
      case till => exact till_leave

/-! ## All peers of a connection -/

lemma leaves_foldl_leave (hr : r.Sound) (link : LinkNo) (peers : List PeerId) :
    Leaves (fun b => decide (b.link = link ∧ b.peer ∈ peers)) r
      (peers.foldl (fun r peer => (r.leave link peer).1) r) := by
  induction peers generalizing r with
  | nil => exact .refl hr fun n b _ => by simp
  | cons first peers ih =>
      refine ((leaves_leave hr link first).trans (ih (sound_leave hr))).congr hr fun n b _ => ?_
      rw [← Bool.decide_or, decide_eq_decide, Binding.seat, Seat.mk.injEq, List.mem_cons]
      tauto

/-- **All bindings that a connection holds leave their sessions, and nobody else leaves.** -/
theorem leaves_leaveAll (hr : r.Sound) (link : LinkNo) :
    Leaves (fun b => decide (b.link = link)) r (r.leaveAll link) := by
  refine (leaves_foldl_leave hr link (r.peersOf link)).congr hr fun n b hb => ?_
  rw [decide_eq_decide, and_iff_left_iff_imp]
  rintro rfl
  have hkey : b.seat ∈ r.joined.keys := by
    by_contra hno
    have hknown := hr.joined_of_mem hb
    rw [Table.get?_eq_none_iff.mpr hno] at hknown
    contradiction
  exact List.mem_map.mpr ⟨b.seat, List.mem_filter.mpr ⟨hkey, beq_self_eq_true _⟩, rfl⟩

end Roster

end MeteredRelay
