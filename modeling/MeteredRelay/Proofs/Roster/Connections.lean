import MeteredRelay.Proofs.Roster.Views

/-!
# What the connections know

A bind that succeeds makes its connection know one binding, the peer's in its session, and may make
another forget one; nothing else that happens to a roster makes a connection know a binding
(**`joined_act`**).
-/

namespace MeteredRelay

namespace Roster

variable {env : Environment} {r r' : Roster} {n : SessionNo} {b : Binding} {peer : PeerId}
  {id : SessionId} {link : LinkNo} {links : Nat} {g : Grant} {now : Instant}

/-! ## Binds -/

lemma get?_joined_bindNew {seat : Seat} :
    (r.bindNew b).joined.get? seat = if b.seat = seat then some b else r.joined.get? seat := by
  unfold bindNew
  dsimp only
  split <;>
    · simp only [joined_remove, get?_joined_join, joined_changeSession]
      rfl

lemma get?_joined_takeOver {old : Binding} {seat : Seat} :
    (r.takeOver old b).joined.get? seat =
      if b.seat = seat then some b
      else (r.joined.get? seat).filter fun a => ¬ (a = old ∧ old.seat = seat) := by
  unfold takeOver
  dsimp only
  split <;>
    · simp only [joined_remove, get?_joined_join, get?_joined_part, joined_changeSession]
      rfl

lemma joined_openSession (hr : r.Sound) {x : Roster} (hx : r.openSession id = (x, n)) :
    x.joined = r.joined := by
  rcases openSession_cases hr hx with ⟨-, rfl⟩ | ⟨-, hcreate⟩
  · rfl
  · cases hcreate
    rfl

/-- A search changes nothing that is so of a new session as of none. -/
lemma session_openSession_congr {α : Type} (f : Session → α) (hf : ∀ id, f (.start id) = f default)
    (hr : r.Sound) {x : Roster} (hx : r.openSession id = (x, n)) (m : SessionNo) :
    f (x.session m) = f (r.session m) := by
  rcases openSession_cases hr hx with ⟨-, rfl⟩ | ⟨-, hcreate⟩
  · rfl
  · have hs := session_create (r := r) id m
    rw [hcreate] at hs
    rw [hs]
    split
    · rename_i hm
      rw [session_of_le (Nat.le_of_eq hm.symm), hf]
    · rfl

/-- A session that was just made has nobody in it. -/
lemma bindings_openSession (hr : r.Sound) {x : Roster} (hx : r.openSession id = (x, n))
    (m : SessionNo) : (x.session m).bindings = (r.session m).bindings :=
  session_openSession_congr Session.bindings (fun _ => rfl) hr hx m

lemma session_openSession_of_ne (hr : r.Sound) {x : Roster} (hx : r.openSession id = (x, n))
    {m : SessionNo} (hm : m ≠ n) : x.session m = r.session m := by
  rcases openSession_cases hr hx with ⟨-, rfl⟩ | ⟨-, hcreate⟩
  · rfl
  · have hs := session_create (r := r) id m
    rw [hcreate] at hs
    rw [hs, if_neg]
    exact fun hsize => hm (hsize.trans (congrArg Prod.snd hcreate))

/-- The id stands for the session that the search ended in, and no other id for another one. -/
lemma get?_table_openSession (hr : r.Sound) {x : Roster} (hx : r.openSession id = (x, n))
    (id' : SessionId) : x.table.get? id' = if id = id' then some n else r.table.get? id' := by
  rcases openSession_cases hr hx with ⟨hn, rfl⟩ | ⟨-, hcreate⟩
  · split
    · rename_i hid
      rw [← hid, hn]
    · rfl
  · cases hcreate
    exact Table.get?_insert ..

/-- What a bind does to the connections: the peer is in the session that the bind ended in, and the
bindings of other peers are what they were. -/
lemma Binds.joined {outcome : Except RelayFault SessionNo} (hr : r.Sound)
    (hr' : Binds r now link peer g r' outcome) :
    (∀ n, outcome = .ok n → ∃ b, r'.joined.get? ⟨link, peer⟩ = some b ∧ b.session = n) ∧
      ∀ seat, seat.peer ≠ peer → r'.joined.get? seat = r.joined.get? seat := by
  cases hr' with
  | banned => exact ⟨nofun, fun _ _ => rfl⟩
  | mismatched => exact ⟨nofun, fun _ _ => rfl⟩
  | refreshed hn hban hb hs hl =>
      rename_i n old
      refine ⟨fun m hm => ⟨old, ?_, ?_⟩, fun _ _ => rfl⟩
      · have hj := hr.binding?_of_find? hb
        rwa [hl] at hj
      · exact (hr.tidy n).home old (Session.mem_of_find? hb) |>.trans (Except.ok.inj hm)
  | takenOver hn hban hb hs hl =>
      rename_i n old
      have hpeer := Session.peer_of_find? hb
      have hsess := (hr.tidy n).home old (Session.mem_of_find? hb)
      constructor
      · intro m hm
        refine ⟨old.movedTo link g.isAdmin r.purses.size, ?_, hsess.trans (Except.ok.inj hm)⟩
        exact get?_joined_takeOver.trans (if_pos (by rw [← hpeer]; rfl))
      · intro seat hseat
        have hne : old.seat ≠ seat := fun e => hseat (by rw [← e]; exact hpeer)
        refine get?_joined_takeOver.trans ?_
        rw [if_neg fun e => hseat (by rw [← e]; exact hpeer)]
        show (r.joined.get? seat).filter _ = _
        cases r.joined.get? seat <;> simp [Option.filter_some, hne]
  | welcomed hx hban hp =>
      rename_i x n
      constructor
      · intro m hm
        exact ⟨_, get?_joined_bindNew.trans (if_pos rfl), Except.ok.inj hm⟩
      · intro seat hseat
        refine get?_joined_bindNew.trans ?_
        rw [if_neg fun e => hseat (by rw [← e]; rfl)]
        show x.joined.get? seat = _
        rw [joined_openSession hr hx]

/-- Only the seat of the peer on the connection may come to be taken. -/
lemma Binds.joined_of_ne {outcome : Except RelayFault SessionNo} (hr : r.Sound)
    (hr' : Binds r now link peer g r' outcome) {seat : Seat} (hseat : seat ≠ ⟨link, peer⟩)
    (hb : r'.joined.get? seat = some b) : r.joined.get? seat = some b := by
  cases hr' with
  | banned => exact hb
  | mismatched => exact hb
  | refreshed => exact hb
  | takenOver hn hban hold hs hl =>
      rename_i n old
      have hpeer := Session.peer_of_find? hold
      have hj := get?_joined_takeOver.symm.trans hb
      rw [if_neg fun e => hseat (by rw [← e, ← hpeer]; rfl), Option.filter_eq_some_iff] at hj
      exact hj.1
  | welcomed hx hban hp =>
      have hj := get?_joined_bindNew.symm.trans hb
      rw [if_neg fun e => hseat (by rw [← e]; rfl)] at hj
      rw [← joined_openSession hr hx]
      exact hj

/-- A binding that the connection knows after a bind is one that it knew before, or one to the
session that the grant names. -/
lemma Binds.admits {outcome : Except RelayFault SessionNo} (hr : r.Sound)
    (hr' : Binds r now link peer g r' outcome)
    (hb : r'.joined.get? ⟨link, peer⟩ = some b) :
    r.joined.get? ⟨link, peer⟩ = some b ∨ outcome = .ok b.session ∧ b.size = g.size.toNat := by
  cases hr' with
  | banned => exact .inl hb
  | mismatched => exact .inl hb
  | refreshed => exact .inl hb
  | takenOver hn hban hold hs hl =>
      rename_i n old
      have hpeer := Session.peer_of_find? hold
      have hj := get?_joined_takeOver.symm.trans hb
      rw [if_pos (by rw [← hpeer]; rfl)] at hj
      obtain rfl := Option.some.inj hj
      exact .inr ⟨congrArg _ ((hr.tidy n).home old (Session.mem_of_find? hold)).symm, hs⟩
  | welcomed hx hban hp =>
      obtain rfl := Option.some.inj ((get?_joined_bindNew.trans (if_pos rfl)).symm.trans hb)
      exact .inr ⟨rfl, rfl⟩

/-! ## Leaving -/

/-- Nobody comes to be bound by a leave. -/
lemma joined_of_leave {seat : Seat} (hb : (r.leave link peer).1.joined.get? seat = some b) :
    r.joined.get? seat = some b := by
  simp only [leave] at hb
  split at hb
  · exact hb
  · rw [joined_remove, Table.get?_erase] at hb
    split at hb
    · contradiction
    · exact hb

lemma joined_of_leaveAll {seat : Seat} (hb : (r.leaveAll link).joined.get? seat = some b) :
    r.joined.get? seat = some b :=
  leaveAll_induction (motive := fun x => x.joined.get? seat = some b → r.joined.get? seat = some b)
    (fun _ _ h hb => h (joined_of_leave hb)) id hb

lemma joined_of_kick {source target : PeerId} {banSeconds : UInt32} {seat : Seat}
    (hb : (r.kick now link source target banSeconds).1.joined.get? seat = some b) :
    r.joined.get? seat = some b := by
  rcases kick_cases r now link source target banSeconds with
    hkick | ⟨held, hkick | ⟨n, last, hkick⟩⟩
  · rwa [hkick] at hb
  · rw [hkick] at hb
    exact joined_of_leave hb
  · rw [hkick] at hb
    exact joined_of_leave (r := r.changeSession n (·.ban target last)) hb

lemma Rotates.joined {source : PeerId} {message : Bytes} {outcome : Except RelayFault Unit}
    (hr' : Rotates env r link source message r' outcome) : r'.joined = r.joined := by
  cases hr' <;> rfl

/-- **Only a bind that succeeds makes a connection know a binding**, and that is one of the peer on
this connection to the session in which the bind ends. -/
theorem joined_act (hr : r.Sound) {env : Environment} {now : Moment} {a : Act}
    (hb : (r.act env now a).joined.get? b.seat = some b) :
    r.joined.get? b.seat = some b ∨ ∃ g, a = .bind b.link b.peer g ∧
      (r.bind now.instant b.link b.peer g).2 = .ok b.session ∧ b.size = g.size.toNat := by
  cases a with
  | bind link peer g =>
      have hbinds := binds_bind hr now.instant link peer g
      by_cases hseat : b.seat = ⟨link, peer⟩
      · have hb' := hb
        rw [hseat] at hb' ⊢
        obtain ⟨rfl, rfl⟩ : b.link = link ∧ b.peer = peer := by simpa [Binding.seat] using hseat
        exact (hbinds.admits hr hb').imp_right fun h => ⟨g, rfl, h⟩
      · exact .inl (hbinds.joined_of_ne hr hseat hb)
  | leave link peer => exact .inl (joined_of_leave hb)
  | leaveAll link => exact .inl (joined_of_leaveAll hb)
  | kick link source target banSeconds => exact .inl (joined_of_kick hb)
  | rotate link source message =>
      rw [act, (rotates_rotate hr env now link source message).joined] at hb
      exact .inl hb
  | forceListing n => exact .inl (by simpa [act] using hb)
  | _ => exact .inl hb

/-- Only connections below a number know bindings. -/
def Seated (links : Nat) (r : Roster) : Prop :=
  ∀ seat b, r.joined.get? seat = some b → seat.link < links

lemma Seated.mono (h : r.Seated links) {more : Nat} (hle : links ≤ more) : r.Seated more :=
  fun seat b hb => Nat.lt_of_lt_of_le (h seat b hb) hle

end Roster

end MeteredRelay
