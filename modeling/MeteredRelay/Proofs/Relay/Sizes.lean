import MeteredRelay.Proofs.Relay.Admission
import MeteredRelay.Proofs.Relay.Processed
import MeteredRelay.Proofs.Relay.Refusal
import MeteredRelay.Proofs.Roster.Sizes

/-!
# One session, one size

The id of a session is a hash of two secrets and a size.  A peer is bound with the size in its
cookie, to the session whose id the cookie makes; so two peers of one session have one size if ids
do not collide.  A rotation then gives the session another id, which is made of another cookie and
perhaps of another size.  But this cookie has to make the id that the session had, and it makes both
ids with one size, so that the new id goes with the size of the bindings as the old one did.

A hash to thirty-two bytes has collisions.  What is needed is that the run shows none:
`Environment.CollisionFree` is about the seeds in the cookies that were shown, and no others.  Then
all that are bound in a session have one size, which is the one in its id, and no join is refused
for its size (**`sizes_agree`**).  On a server that asks for no cookies there is one size only.
-/

namespace MeteredRelay

/-- What the id of a session is made of. -/
structure SessionSeed where
  owner : Octets 32
  server : Octets 32
  size : UInt32
deriving DecidableEq

/-- The seed of the session that a cookie is for. -/
def JoinCookie.seed (c : JoinCookie) : SessionSeed := ⟨c.ownerSecret, c.serverSecret, c.size⟩

namespace RotationCookie

/-- The seed of the id that a cookie moves a session from. -/
def oldSeed (c : RotationCookie) : SessionSeed := ⟨c.oldOwnerSecret, c.serverSecret, c.size⟩

/-- The seed of the id that a cookie moves a session to. -/
def newSeed (c : RotationCookie) : SessionSeed := ⟨c.newOwnerSecret, c.serverSecret, c.size⟩

end RotationCookie

namespace Environment

variable {env : Environment} {seeds : List SessionSeed} {id : SessionId} {size other : Nat}

/-- The id that a seed makes. -/
def idOf (env : Environment) (s : SessionSeed) : SessionId := env.sessionId s.owner s.server s.size

/-- Of some seeds, no two make one id. -/
def CollisionFree (env : Environment) (seeds : List SessionSeed) : Prop :=
  ∀ s ∈ seeds, ∀ t ∈ seeds, env.idOf s = env.idOf t → s = t

instance : Decidable (env.CollisionFree seeds) :=
  inferInstanceAs (Decidable (∀ s ∈ seeds, ∀ t ∈ seeds, env.idOf s = env.idOf t → s = t))

/-- A size goes with an id: one of some seeds makes the id and has the size.  Where there are no
cookies, there is one size. -/
structure Allows (env : Environment) (seeds : List SessionSeed) (id : SessionId) (size : Nat) :
    Prop where
  shown : env.settings.cookieKeys.isSome → ∃ s ∈ seeds, env.idOf s = id ∧ s.size.toNat = size
  free : env.settings.cookieKeys = none → size = Admission.openSize.toNat

namespace Allows

lemma size_eq (hfree : env.CollisionFree seeds) (h : env.Allows seeds id size)
    (h' : env.Allows seeds id other) : size = other := by
  cases hkeys : env.settings.cookieKeys with
  | none => rw [h.free hkeys, h'.free hkeys]
  | some keys =>
      obtain ⟨s, hs, hid, rfl⟩ := h.shown (by rw [hkeys]; rfl)
      obtain ⟨t, ht, hid', rfl⟩ := h'.shown (by rw [hkeys]; rfl)
      rw [hfree s hs t ht (hid.trans hid'.symm)]

/-- What goes with the old id of a rotation goes with the new one. -/
lemma rotate {c : RotationCookie} (hfree : env.CollisionFree seeds) (hold : c.oldSeed ∈ seeds)
    (hnew : c.newSeed ∈ seeds) (h : env.Allows seeds (Rotation.oldId env c) size) :
    env.Allows seeds (Rotation.newId env c) size := by
  refine ⟨fun hkeys => ?_, h.free⟩
  obtain ⟨s, hs, hid, rfl⟩ := h.shown hkeys
  obtain rfl := hfree s hs c.oldSeed hold hid
  exact ⟨c.newSeed, hnew, rfl, rfl⟩

end Allows

end Environment

/-- The seeds behind a message: a join has one in its cookie, and a rotation two. -/
def PacketBuffer.seeds (env : Environment) (p : PacketBuffer) : List SessionSeed :=
  match p.command, env.settings.cookieKeys with
  | .ok (.joinSession, cookie), some keys =>
    match JoinCookie.opened env.cipher keys cookie with
    | .ok c => [c.seed]
    | .error _ => []
  | .ok (.rotateCookies, cookie), some keys =>
    match RotationCookie.opened env.cipher keys cookie with
    | .ok c => [c.oldSeed, c.newSeed]
    | .error _ => []
  | _, _ => []

namespace PacketBuffer

variable {env : Environment} {p : PacketBuffer} {cookie : Bytes}

lemma mem_seeds_of_checkedCookie {keys : CookieKeys} {now : Moment} {peer : PeerId} {c : JoinCookie}
    (hkeys : env.settings.cookieKeys = some keys)
    (hcommand : p.command = .ok (.joinSession, cookie))
    (h : Admission.checkedCookie env.cipher keys now peer cookie = .ok c) :
    c.seed ∈ p.seeds env := by
  simp only [seeds, hcommand, hkeys, (Relay.opened_of_checkedCookie h).1]
  exact List.mem_singleton_self _

lemma seeds_of_openedCookie {c : RotationCookie}
    (hcommand : p.command = .ok (.rotateCookies, cookie))
    (h : Rotation.openedCookie env cookie = .ok c) : p.seeds env = [c.oldSeed, c.newSeed] := by
  unfold Rotation.openedCookie at h
  split at h
  · contradiction
  rename_i keys hkeys
  split at h
  · contradiction
  rename_i c' hopened
  obtain rfl := Except.ok.inj h
  simp only [seeds, hcommand, hkeys, hopened]

end PacketBuffer

namespace Roster

variable {env : Environment} {now : Moment} {tag : UInt64} {r : Roster} {peer : PeerId}
  {cookie : Bytes} {allows : SessionId → Nat → Prop}

/-- What is not granted is refused with a code. -/
lemma coded_of_grant_error {e : RelayFault} (h : (r.grant env now tag peer cookie).2 = .error e) :
    ∃ code, e = .coded code := by
  simp only [grant] at h
  split at h
  · contradiction
  cases hc : Admission.checkedCookie env.cipher _ now peer cookie with
  | ok c =>
      rw [hc] at h
      contradiction
  | error e' =>
      rw [hc] at h
      obtain rfl := Except.error.inj h
      unfold Admission.checkedCookie at hc
      split at hc
      · exact ⟨_, (Except.error.inj hc).symm⟩
      split at hc
      · exact ⟨_, (Except.error.inj hc).symm⟩
      split at hc
      · exact ⟨_, (Except.error.inj hc).symm⟩
      · contradiction

/-- **Where an id allows one size only, no join is refused for its size.** -/
lemma Sized.outcome_ne (h : r.Sized allows) (hr : r.Sound)
    (honly : ∀ {id size other}, allows id size → allows id other → size = other)
    (hgrants : ∀ g, (r.grant env now tag peer cookie).2 = .ok g → allows g.session g.size.toNat)
    (link : LinkNo) (bound requested : Nat) :
    r.outcome env now tag link peer .joinSession cookie ≠
      .error (.sizeMismatch bound requested) := by
  intro hrefused
  cases hg : (r.grant env now tag peer cookie).2 with
  | error e =>
      simp only [outcome, hg] at hrefused
      obtain rfl := Except.error.inj hrefused
      obtain ⟨code, hcode⟩ := coded_of_grant_error hg
      contradiction
  | ok g =>
      simp only [outcome, hg] at hrefused
      have hbind := Relay.of_map_error hrefused
      rcases grant_of_ok hg with hgrant | ⟨a, -, -, hgrant⟩
      · rw [hgrant] at hbind
        exact h.bind_ne hr honly (hgrants g hg) _ _ _ _ _ hbind
      · rw [hgrant] at hbind
        have hsized : (r.withAccount a).Sized allows := h
        exact hsized.bind_ne (hr.congr rfl rfl rfl) honly (hgrants g hg) _ _ _ _ _ hbind

end Roster

namespace Relay

variable {env : Environment} {now : Moment} {r : Relay} {n : LinkNo} {p : PacketBuffer} {e : Event}
  {events : List (Moment × Event)} {seeds : List SessionSeed} {a : Roster.Act} {cookie : Bytes}

/-! ## Seeds that are shown -/

/-- The seeds behind the message that an event brings. -/
def shownAt (env : Environment) (now : Moment) (r : Relay) : Event → List SessionSeed
  | .datagram address datagram =>
    match r.message? env now address datagram with
    | some (_, p) => p.seeds env
    | none => []
  | _ => []

/-- The seeds that are shown in the course of a run. -/
def shownIn (env : Environment) (r : Relay) : List (Moment × Event) → List SessionSeed
  | [] => []
  | e :: es => r.shownAt env e.1 e.2 ++ (r.step env e.1 e.2).shownIn env es

lemma shownIn_append {more : List (Moment × Event)} : r.shownIn env (events ++ more) =
    r.shownIn env events ++ (r.run env events).shownIn env more := by
  induction events generalizing r with
  | nil => rfl
  | cons e es ih => rw [List.cons_append, shownIn, ih, shownIn, run_cons, List.append_assoc]

/-- The message that an event brings is found. -/
lemma message?_of_brings {address : SocketAddress} {datagram : Bytes}
    (h : Brings env now r (.datagram address datagram) n p) :
    r.message? env now address datagram = some (n, p) := by
  cases h with
  | intro harrive hopen =>
      have hinput : (r.take datagram).desk.raw.take datagram.length = datagram := List.take_left
      rw [hinput] at harrive hopen
      rw [arrive_take] at harrive
      obtain ⟨rfl, harrival⟩ := Prod.mk.inj harrive
      exact message?_of_opened (Prod.ext rfl harrival) hopen

lemma shownAt_of_brings (h : Brings env now r e n p) : r.shownAt env now e = p.seeds env := by
  have hbrings := h
  cases h with
  | intro => rw [shownAt, message?_of_brings hbrings]

/-! ## What an event keeps -/

/-- The grant for a shown cookie goes with the id in it. -/
lemma Granted.allows {peer : PeerId} {g : Grant} (h : Granted env now peer cookie g)
    (hcommand : p.command = .ok (.joinSession, cookie)) (hseeds : p.seeds env ⊆ seeds) :
    env.Allows seeds g.session g.size.toNat := by
  refine ⟨fun hsome => ?_, fun hnone => by rw [h.free hnone]⟩
  obtain ⟨keys, hkeys⟩ := Option.isSome_iff_exists.mp hsome
  obtain ⟨c, hchecked, hsession, hsize⟩ := h.shown keys hkeys
  have hmem := PacketBuffer.mem_seeds_of_checkedCookie hkeys hcommand hchecked
  exact ⟨c.seed, hseeds hmem, hsession.symm, by rw [hsize]; rfl⟩

/-- The acts that are due for an event keep to the rule. -/
lemma Due.regular (h : Due env now r e a) (hseeds : r.shownAt env now e ⊆ seeds)
    (hfree : env.CollisionFree seeds) : a.Regular env (env.Allows seeds) := by
  rcases h with hroutine | ⟨n, p, hbrings, hasks⟩
  · refine ⟨?_, ?_⟩
    · rintro link peer g rfl
      exact hroutine.elim
    · rintro link source message c rfl
      exact hroutine.elim
  · rw [shownAt_of_brings hbrings] at hseeds
    refine ⟨?_, ?_⟩
    · rintro link peer g rfl
      obtain ⟨-, -, -, cookie, hcommand, hgranted⟩ := hasks
      exact hgranted.allows hcommand hseeds
    · rintro link source message c rfl hc size hsize
      have hcommand : p.command = .ok (.rotateCookies, message) := hasks
      rw [PacketBuffer.seeds_of_openedCookie hcommand hc] at hseeds
      exact hsize.rotate hfree (hseeds List.mem_cons_self)
        (hseeds (List.mem_cons_of_mem _ List.mem_cons_self))

/-- **An event keeps sizes and ids together**, if the seeds that it shows are of some seeds without
a collision. -/
lemma sized_step (hr : r.Orderly) (h : r.roster.Sized (env.Allows seeds))
    (hseeds : r.shownAt env now e ⊆ seeds) (hfree : env.CollisionFree seeds) :
    (r.step env now e).roster.Sized (env.Allows seeds) := by
  refine ((performs_step env now r e).keeps
    (P := fun q => q.Sound ∧ q.Sized (env.Allows seeds)) ?_ ⟨hr.roster.sound, h⟩).2
  rintro q a hdue ⟨hq, hsized⟩
  exact ⟨Roster.sound_act now a hq, hsized.act hq now (hdue.regular hseeds hfree)⟩

lemma sized_run (hr : r.Orderly) (h : r.roster.Sized (env.Allows seeds))
    (hseeds : r.shownIn env events ⊆ seeds) (hfree : env.CollisionFree seeds) :
    (r.run env events).roster.Sized (env.Allows seeds) := by
  induction events generalizing r with
  | nil => exact h
  | cons e es ih =>
      obtain ⟨hfirst, hrest⟩ := List.append_subset.mp hseeds
      exact ih (hr.step e.2) (sized_step hr h hfirst hfree) hrest

/-- **In a session there is one size.**  After a run whose cookies show no collision, all that are
bound in a session have the same size; on a server with a key for cookies a cookie of the run was
for the session's present id, and for this size.  And no join in the run was refused for its
size. -/
theorem sizes_agree (env : Environment) (events : List (Moment × Event))
    (hfree : env.CollisionFree (start.shownIn env events)) :
    let r := start.run env events
    (∀ n, ∀ b ∈ (r.roster.session n).bindings, ∀ b' ∈ (r.roster.session n).bindings,
      b.size = b'.size) ∧
    (env.settings.cookieKey.isSome → ∀ n, ∀ b ∈ (r.roster.session n).bindings,
      ∃ s ∈ start.shownIn env events, env.idOf s = (r.roster.session n).id ∧
        s.size.toNat = b.size) ∧
    ∀ before now address datagram after n p cookie,
      events = before ++ (now, .datagram address datagram) :: after →
      (start.run env before).message? env now address datagram = some (n, p) →
      p.command = .ok (.joinSession, cookie) → ∀ tag bound requested,
        (start.run env before).roster.outcome env now tag n p.source .joinSession cookie ≠
          .error (.sizeMismatch bound requested) := by
  have hsized {before after : List (Moment × Event)} (hevents : events = before ++ after) :
      (start.run env before).roster.Sized (env.Allows (start.shownIn env events)) := by
    refine sized_run orderly_start (fun n b hb => absurd hb List.not_mem_nil) ?_ hfree
    rw [hevents, shownIn_append]
    exact List.subset_append_left ..
  refine ⟨?_, ?_, ?_⟩
  · intro n b hb b' hb'
    have h := hsized (List.append_nil events).symm n
    exact (h b hb).size_eq hfree (h b' hb')
  · intro hkey n b hb
    refine (hsized (List.append_nil events).symm n b hb).shown ?_
    rw [Settings.cookieKeys, Option.isSome_map]
    exact hkey
  · intro before now address datagram after n p cookie hevents hmessage hcommand tag bound requested
    have horderly : (start.run env before).Orderly := (Reachable.start.run before).orderly
    refine (hsized hevents).outcome_ne horderly.roster.sound (fun h h' => h.size_eq hfree h') ?_ n
      bound requested
    intro g hg
    refine (granted_grant hg).allows hcommand ?_
    have hshown : (start.run env before).shownAt env now (.datagram address datagram) =
        p.seeds env := by rw [shownAt, hmessage]
    rw [hevents, shownIn_append, shownIn, ← hshown]
    exact List.subset_append_of_subset_right _ (List.subset_append_left ..)

/-! ## A session that moves -/

/-- A rotation that is processed does to the roster what its cookie asks for. -/
lemma roster_receive_of_rotation {address : SocketAddress} {datagram : Bytes}
    (hprocessed : r.processedOn? env now address datagram = some n)
    (hmessage : r.message? env now address datagram = some (n, p)) (hsource : p.source ≠ p.target)
    (htarget : p.target.isServer = true) (hcommand : p.command = .ok (.rotateCookies, cookie)) :
    (r.receive env now address datagram).roster =
      (r.roster.rotate env now n p.source cookie).1 := by
  have hprocesses := processes_receive env now r address datagram
  rw [hprocessed] at hprocesses
  obtain ⟨ready, size, hroster, hready, hprocesses⟩ := hprocesses
  obtain rfl : ready.desk.packet = p :=
    (Prod.mk.inj (Option.some.inj (hready.symm.trans hmessage))).2
  have hobey : (ready.obey env now n).1.roster =
      (r.roster.rotate env now n ready.desk.packet.source cookie).1 := by
    simp only [obey, htarget, hcommand, Bool.not_true, Bool.false_eq_true, if_false]
    rw [keeps_obeyRotate.roster, ← hroster]
    rfl
  generalize r.receive env now address datagram = r' at hprocesses ⊢
  cases hprocesses with
  | obeyed _ heq => rwa [heq] at hobey
  | disobeyed _ heq =>
      rw [heq] at hobey
      exact hobey
  | unbound hdata => exact absurd hdata hsource
  | forwarded hdata => exact absurd hdata hsource

/-- The cookie with which the first peer moves its session. -/
def movingCookie : Bytes :=
  Roster.onesCookie.sealed Roster.zeroKeyServer.cipher default default

/-- The datagram in which the first peer shows it. -/
def movingDatagram : Bytes :=
  Frame.encode ⟨PeerId.server, ⟨1⟩, 2, CommandTag.rotateCookies.byte :: movingCookie⟩

/-- The first peer joins and moves its session. -/
def movingRun : List (Moment × Event) :=
  [firstJoin, (firstJoin.1, .datagram default movingDatagram)]

/-- The second event of the run is a rotation of the session that the first one founded. -/
lemma roster_movingRun : (start.run Roster.zeroKeyServer movingRun).roster =
    ((start.run Roster.zeroKeyServer [firstJoin]).roster.rotate Roster.zeroKeyServer firstJoin.1 0
      ⟨1⟩ movingCookie).1 := by
  -- what the message says is evaluated here, and what it does only after that: both nest too deep
  obtain ⟨x, hx⟩ : ∃ x, (start.run Roster.zeroKeyServer [firstJoin]).message?
    Roster.zeroKeyServer firstJoin.1 default movingDatagram = x := ⟨_, rfl⟩
  have hread : x.map (·.1) = some 0 ∧ x.map (·.2.source) = some ⟨1⟩ ∧
      x.map (·.2.target) = some PeerId.server ∧
      x.map (·.2.command) = some (.ok (.rotateCookies, movingCookie)) := by
    rw [← hx]
    decide +kernel
  obtain ⟨⟨n, p⟩, rfl, hn⟩ := Option.map_eq_some_iff.mp hread.1
  obtain ⟨hsource, htarget, hcommand⟩ : p.source = ⟨1⟩ ∧ p.target = PeerId.server ∧
      p.command = .ok (.rotateCookies, movingCookie) := by simpa using hread.2
  obtain rfl : n = 0 := hn
  have hprocessed : (start.run Roster.zeroKeyServer [firstJoin]).processedOn?
      Roster.zeroKeyServer firstJoin.1 default movingDatagram = some 0 := by decide +kernel
  have hrotated := roster_receive_of_rotation hprocessed hx (by rw [hsource, htarget]; decide)
    (by rw [htarget]; rfl) hcommand
  have hrun (env : Environment) (a b : Moment × Event) :
      start.run env [a, b] = (start.run env [a]).step env b.1 b.2 := rfl
  rw [movingRun, hrun, step, hrotated, hsource]

/-- The first peer is bound in the session that it moved, and its size is the one in the new id. -/
theorem sizes_agree_moving :
    Roster.zeroKeyServer.CollisionFree (start.shownIn Roster.zeroKeyServer movingRun) ∧
    ((start.run Roster.zeroKeyServer movingRun).roster.session 0).id =
      Roster.zeroKeyServer.idOf Roster.onesCookie.newSeed ∧
    ∃ s ∈ start.shownIn Roster.zeroKeyServer movingRun, Roster.zeroKeyServer.idOf s =
      ((start.run Roster.zeroKeyServer movingRun).roster.session 0).id ∧ s.size.toNat = 4 := by
  have hfree : Roster.zeroKeyServer.CollisionFree
      (start.shownIn Roster.zeroKeyServer movingRun) := by decide +kernel
  have hb : ⟨⟨1⟩, 0, 0, 4, true, 0⟩ ∈
      ((start.run Roster.zeroKeyServer movingRun).roster.session 0).bindings := by
    rw [roster_movingRun]
    decide +kernel
  refine ⟨hfree, ?_, (sizes_agree Roster.zeroKeyServer movingRun hfree).2.1 rfl 0 _ hb⟩
  rw [roster_movingRun]
  decide +kernel

end Relay

end MeteredRelay
