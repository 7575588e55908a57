import Mathlib.Data.List.Induction
import MeteredRelay.Proofs.Cookie
import MeteredRelay.Proofs.Relay.Reachable
import MeteredRelay.Proofs.Roster.Index
import MeteredRelay.Proofs.Roster.Lasting

/-!
# Where bindings come from

On a server that has a key for cookies, nobody is bound without one.  **`bound_by_cookie`** traces
each binding of each state that a run leads to back to a datagram of the run: it came through the
connection of the binding and brought a join from its peer, with a cookie that was good for this
peer then and named the id that the session had.

The binding was made by that very event (`joined_act`), for a message asks for a bind only if it is
a join (`Asks`).  A message that is a join asks for no rotation, so that the session still has the
id when the event is over (`id_act`).
-/

namespace MeteredRelay

namespace Roster

variable {env : Environment} {r : Roster} {b : Binding}

/-- What a connection comes to know in a run was bound for the id that its session has then, if the
run has binds or rotations but not both. -/
lemma joined_run (hr : r.Sound) {acts : List (Moment × Act)}
    (hapart : ∀ a ∈ acts, ∀ c ∈ acts, ∀ link peer g, a.2 = .bind link peer g →
      ∀ link source message, c.2 ≠ .rotate link source message)
    (hb : (r.run env acts).joined.get? b.seat = some b) :
    r.joined.get? b.seat = some b ∨ ∃ now g, (now, .bind b.link b.peer g) ∈ acts ∧
      b.size = g.size.toNat ∧ ((r.run env acts).session b.session).id = g.session := by
  induction acts using List.reverseRecOn with
  | nil => exact .inl hb
  | append_singleton acts a ih =>
      have hsound : (r.run env acts).Sound := run_induction sound_act hr acts
      rw [run_append] at hb ⊢
      rcases joined_act hsound hb with hb | ⟨g, hbind, hok, hsize⟩
      · refine (ih ?_ hb).imp_right ?_
        · intro a ha c hc
          exact hapart a (List.mem_append_left _ ha) c (List.mem_append_left _ hc)
        rintro ⟨now, g, hmem, hsize, hid⟩
        refine ⟨now, g, List.mem_append_left _ hmem, hsize, ?_⟩
        -- the session is there already, since the binding is in it
        have hlt := lt_size_of_mem (hsound.joined_iff.mp hb).1
        rcases id_act hsound env a.1 a.2 hlt with hkept | ⟨link, source, message, hrotate⟩
        · exact hkept.trans hid
        · exact absurd hrotate (hapart _ (List.mem_append_left _ hmem) a
            (List.mem_append_right _ List.mem_cons_self) _ _ _ rfl link source message)
      · refine .inr ⟨a.1, g, ?_, hsize, ?_⟩
        · exact List.mem_append_right _ (by rw [← hbind]; exact List.mem_cons_self)
        · have hbinds := binds_bind hsound a.1.instant b.link b.peer g
          rw [hok] at hbinds
          show (((r.run env acts).act env a.1 a.2).session b.session).id = _
          rw [hbind]
          exact hbinds.session_id hsound

end Roster

namespace Relay

variable {env : Environment} {now : Moment} {r : Relay} {e : Event} {b : Binding} {n : SessionNo}

/-- A message is a join of the peer of a binding: it carries a cookie that a key opens, that was
made for this peer, has not ended, and says the size of the binding and the secrets of the session's
id. -/
structure Joins (env : Environment) (now : Moment) (p : PacketBuffer) (b : Binding)
    (id : SessionId) (k : Key) (c : JoinCookie) : Prop where
  target : p.target.isServer = true
  source : p.source = b.peer
  opens : ∃ cookie text, p.command = .ok (.joinSession, cookie) ∧
    env.cipher.opened k JoinCookie.label cookie = .ok text ∧ JoinCookie.decode text = .ok c
  peer : c.peer = b.peer
  inTime : now.unix ≤ c.endTime
  size : c.size.toNat = b.size
  session : env.sessionId c.ownerSecret c.serverSecret c.size = id

/-- A cookie that is good for a peer opens, was made for this peer and has not ended. -/
lemma opened_of_checkedCookie {keys : CookieKeys} {peer : PeerId} {cookie : Bytes} {c : JoinCookie}
    (h : Admission.checkedCookie env.cipher keys now peer cookie = .ok c) :
    JoinCookie.opened env.cipher keys cookie = .ok c ∧ c.peer = peer ∧ now.unix ≤ c.endTime := by
  unfold Admission.checkedCookie at h
  split at h
  · contradiction
  rename_i c' hopened
  split at h
  · contradiction
  rename_i hpeer
  split at h
  · contradiction
  rename_i hend
  obtain rfl := Except.ok.inj h
  exact ⟨hopened, not_not.mp hpeer, Int64.not_lt.mp hend⟩

/-- A cookie that is good for a peer is opened by a key of the server. -/
lemma opens_of_checkedCookie {keys : CookieKeys} {peer : PeerId} {cookie : Bytes} {c : JoinCookie}
    (h : Admission.checkedCookie env.cipher keys now peer cookie = .ok c) :
    (∃ k ∈ keys.toList, ∃ text, env.cipher.opened k JoinCookie.label cookie = .ok text ∧
      JoinCookie.decode text = .ok c) ∧ c.peer = peer ∧ now.unix ≤ c.endTime := by
  obtain ⟨hopened, hgood⟩ := opened_of_checkedCookie h
  exact ⟨CookieKeys.exists_decoded hopened, hgood⟩

/-- A datagram brings one message at most. -/
lemma Brings.unique {link link' : LinkNo} {p p' : PacketBuffer} (h : Brings env now r e link p)
    (h' : Brings env now r e link' p') : p = p' := by
  cases h with
  | intro harrive hopen =>
      cases h' with
      | intro harrive' hopen' =>
          cases harrive.symm.trans harrive'
          cases hopen.symm.trans hopen'
          rfl

/-- The acts that are due for an event have binds or rotations, but not both. -/
lemma Due.apart {a c : Roster.Act} (ha : Due env now r e a) (hc : Due env now r e c)
    {link : LinkNo} {peer : PeerId} {g : Grant} (hbind : a = .bind link peer g) {held : LinkNo}
    {source : PeerId} {message : Bytes} : c ≠ .rotate held source message := by
  rintro rfl
  subst hbind
  rcases ha with ha | ⟨n, p, hbrings, -, -, -, cookie, hjoin, -⟩
  · exact ha
  rcases hc with hc | ⟨n', p', hbrings', hrotate⟩
  · exact hc
  · obtain rfl := hbrings.unique hbrings'
    cases hjoin.symm.trans hrotate

/-- A binding that is new after an event was made for a join that the event brought. -/
lemma bound_step (hr : r.Orderly) {keys : CookieKeys} (hkeys : env.settings.cookieKeys = some keys)
    (hb : b ∈ ((r.step env now e).roster.session n).bindings) :
    b ∈ (r.roster.session n).bindings ∨ ∃ p k c, Brings env now r e b.link p ∧ k ∈ keys.toList ∧
      Joins env now p b (((r.step env now e).roster.session n).id) k c := by
  have hr' : (r.step env now e).roster.Sound := (hr.step e).roster.sound
  obtain rfl : b.session = n := (hr'.tidy n).home b hb
  have hj := hr'.joined_of_mem hb
  rcases performs_step env now r e with ⟨acts, hdue, hacts⟩
  have hapart : ∀ a ∈ acts.map (now, ·), ∀ c ∈ acts.map (now, ·), ∀ link peer g,
      a.2 = .bind link peer g → ∀ link source message, c.2 ≠ .rotate link source message := by
    intro a ha c hc link peer g hbind held source message
    obtain ⟨a', ha', rfl⟩ := List.mem_map.mp ha
    obtain ⟨c', hc', rfl⟩ := List.mem_map.mp hc
    exact (hdue a' ha').apart (hdue c' hc') hbind
  rw [hacts] at hj ⊢
  rcases Roster.joined_run hr.roster.sound hapart hj with hj | ⟨now', g, hmem, hsize, hid⟩
  · exact .inl (hr.roster.sound.joined_iff.mp hj).1
  · obtain ⟨a, ha, heq⟩ := List.mem_map.mp hmem
    obtain ⟨rfl, rfl⟩ := Prod.mk.inj heq
    rcases hdue _ ha with hroutine | ⟨link, p, hbrings, rfl, hsource, htarget, cookie, hcommand,
      hgranted⟩
    · exact hroutine.elim
    · obtain ⟨c, hchecked, hsession, hgsize⟩ := hgranted.shown keys hkeys
      obtain ⟨⟨k, hk, text, hopened, hdecode⟩, hpeer, hend⟩ := opens_of_checkedCookie hchecked
      refine .inr ⟨p, k, c, hbrings, hk, htarget, hsource.symm,
        ⟨cookie, text, hcommand, hopened, hdecode⟩, hpeer, hend, ?_, ?_⟩
      · rw [hsize, hgsize]
      · rw [hid, hsession]

/-- **Everybody who is bound showed a cookie.**  On a server with a key for cookies, each binding of
each state that a run leads to was made by an event of the run: a datagram that brought, from the
connection of the binding, a join of its peer.  The cookie opened under the key of the server or a
retired one, was made for this peer and had not ended; it says the size of the binding, and the
secrets and the size in it make the id that the session had then. -/
theorem bound_by_cookie (env : Environment) (key : Key) (hkey : env.settings.cookieKey = some key)
    (events : List (Moment × Event)) (n : SessionNo) (b : Binding)
    (hb : b ∈ ((start.run env events).roster.session n).bindings) :
    ∃ before now e after, events = before ++ (now, e) :: after ∧
      b ∈ ((start.run env (before ++ [(now, e)])).roster.session n).bindings ∧
      ∃ p, Brings env now (start.run env before) e b.link p ∧
        ∃ k ∈ key :: env.settings.retiredKeys, ∃ c,
          Joins env now p b ((start.run env (before ++ [(now, e)])).roster.session n).id k c := by
  have hkeys : env.settings.cookieKeys = some ⟨key, env.settings.retiredKeys⟩ := by
    rw [Settings.cookieKeys, hkey, Option.map_some]
  induction events using List.reverseRecOn with
  | nil => exact absurd hb List.not_mem_nil
  | append_singleton events a ih =>
      have horderly : (start.run env events).Orderly := (Reachable.start.run events).orderly
      have hb' := hb
      rw [run_append] at hb'
      rcases bound_step horderly hkeys hb' with hold | ⟨p, k, c, hbrings, hk, hjoins⟩
      · obtain ⟨before, now, e, after, rfl, hfound⟩ := ih hold
        exact ⟨before, now, e, after ++ [a], by simp, hfound⟩
      · refine ⟨events, a.1, a.2, [], rfl, hb, p, hbrings, k, hk, c, ?_⟩
        rw [run_append]
        exact hjoins

/-- A cookie for the first peer, under secrets of zeros. -/
def firstCookie : JoinCookie := ⟨default, default, 4, ⟨1⟩, 1700000000, 7, 1000, true⟩

/-- The first peer shows its cookie in the last second in which it is good. -/
def firstJoin : Moment × Event :=
  (⟨0, 1700000000 * 1000000000⟩, .datagram default (Frame.encode
    ⟨PeerId.server, ⟨1⟩, 1, CommandTag.joinSession.byte ::
      firstCookie.sealed Roster.zeroKeyServer.cipher default default⟩))

/-- The first peer is bound, and this event brought its cookie. -/
theorem bound_by_cookie_first :
    let b : Binding := ⟨⟨1⟩, 0, 0, 4, true, 0⟩
    let r := start.run Roster.zeroKeyServer [firstJoin]
    b ∈ (r.roster.session 0).bindings ∧
      ∃ p, Brings Roster.zeroKeyServer firstJoin.1 start firstJoin.2 0 p ∧
        ∃ c, Joins Roster.zeroKeyServer firstJoin.1 p b (r.roster.session 0).id default c := by
  intro b r
  have hb : b ∈ (r.roster.session 0).bindings := by decide +kernel
  obtain ⟨before, now, e, after, hevents, -, p, hbrings, k, hk, c, hjoins⟩ :=
    bound_by_cookie Roster.zeroKeyServer default rfl [firstJoin] 0 b hb
  cases before with
  | nil =>
      obtain ⟨⟨rfl, rfl⟩, -⟩ : (firstJoin.1 = now ∧ firstJoin.2 = e) ∧ [] = after := by
        simpa [Prod.ext_iff] using hevents
      obtain rfl := List.mem_singleton.mp hk
      exact ⟨hb, p, hbrings, c, hjoins⟩
  | cons a before => simp at hevents

end Relay

end MeteredRelay
