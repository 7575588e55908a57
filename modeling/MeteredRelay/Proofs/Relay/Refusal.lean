import MeteredRelay.Proofs.Ledger
import MeteredRelay.Proofs.Relay.PassOn
import MeteredRelay.Proofs.Roster.Ban

/-!
# Refused commands

A command about bindings does all of its work on the roster or none.  Joins, leaves, kicks and
rotations look at some things before they change others, and **`roster_of_refused`** says that one
which is refused left the roster as it was, with all of its sessions, bindings, bans, purses,
accounts and gauges.  There is one exception: the payment of a join is redeemed before the session
is asked, so when the session refuses there may be a new account, with all that the payment allows.

Two refusals come after something was done.  A bind with another size comes after an ended ban was
lifted, but a peer that is bound is under no ban (`unbanned_run`), so there was nothing to lift.
And a kick writes its ban down before the target leaves, but this does not fail: the connection of a
peer knows the binding that the session lists (`kicks_kick`).
-/

namespace MeteredRelay

namespace Roster

variable {env : Environment} {r r' : Roster} {n : SessionNo} {peer source target : PeerId}
  {link : LinkNo} {g : Grant} {now : Moment} {t : Instant} {tag : UInt64} {cookie message : Bytes}
  {e : RelayFault}

/-! ## What is refused changes nothing -/

lemma Binds.eq_of_error {outcome : Except RelayFault SessionNo} (hr : r.Unbanned)
    (hr' : Binds r t link peer g r' outcome) (h : outcome = .error e) : r' = r := by
  cases hr' with
  | banned => rfl
  | mismatched hn hban hb hs =>
      refine changeSession_eq_self (liftBan_eq_self (hr _ peer ?_))
      exact Session.mem_peers_of_find? hb
  | _ => contradiction

lemma Rotates.eq_of_error {outcome : Except RelayFault Unit}
    (hr' : Rotates env r link source message r' outcome) (h : outcome = .error e) : r' = r := by
  cases hr' with
  | refused => rfl
  | _ => contradiction

/-- The account that the payment behind a cookie would open; where there are no cookies, `tag` is
the payment. -/
def payment (env : Environment) (now : Moment) (tag : UInt64) (peer : PeerId) (cookie : Bytes) :
    Option Account :=
  match env.settings.cookieKeys with
  | none =>
    some (.start tag Admission.openAllowance (Admission.openEndTime env.settings now))
  | some keys =>
    match Admission.checkedCookie env.cipher keys now peer cookie with
    | .error _ => none
    | .ok c => some (.start c.paymentTag c.allowance c.endTime)

/-- A ledger with one more account. -/
def withAccount (r : Roster) (a : Account) : Roster :=
  { r with ledger := { r.ledger with
      accounts := r.ledger.accounts.add a
      payments := r.ledger.payments.insert a.tag r.ledger.accounts.size } }

lemma redeem_cases (r : Roster) (tag allowance : UInt64) (endTime : Int64) :
    { r with ledger := (r.ledger.redeem tag allowance endTime).1 } = r ∨
      r.ledger.payments.get? tag = none ∧
        { r with ledger := (r.ledger.redeem tag allowance endTime).1 } =
          r.withAccount (.start tag allowance endTime) := by
  cases hp : r.ledger.payments.get? tag with
  | some n => exact .inl (by rw [Ledger.redeem_of_some hp])
  | none => exact .inr ⟨rfl, by rw [Ledger.redeem_of_none hp]; rfl⟩

/-- A peer that shows nothing good opens no account. -/
lemma grant_of_error (h : (r.grant env now tag peer cookie).2 = .error e) :
    (r.grant env now tag peer cookie).1 = r := by
  unfold grant at *
  cases hkeys : env.settings.cookieKeys with
  | none =>
      rw [hkeys] at h
      contradiction
  | some keys =>
      rw [hkeys] at h
      dsimp only at *
      cases hc : Admission.checkedCookie env.cipher keys now peer cookie with
      | error e => rfl
      | ok c =>
          rw [hc] at h
          contradiction

/-- A peer that is granted something has the account of its payment, which may be new. -/
lemma grant_of_ok (h : (r.grant env now tag peer cookie).2 = .ok g) :
    (r.grant env now tag peer cookie).1 = r ∨
      ∃ a, payment env now tag peer cookie = some a ∧ r.ledger.payments.get? a.tag = none ∧
        (r.grant env now tag peer cookie).1 = r.withAccount a := by
  unfold grant payment at *
  cases hkeys : env.settings.cookieKeys with
  | none => exact (redeem_cases r _ _ _).imp_right fun h => ⟨_, rfl, h⟩
  | some keys =>
      rw [hkeys] at h
      dsimp only at *
      cases hc : Admission.checkedCookie env.cipher keys now peer cookie with
      | error e =>
          rw [hc] at h
          contradiction
      | ok c => exact (redeem_cases r _ _ _).imp_right fun h => ⟨_, rfl, h⟩

/-- How a command about bindings ends. -/
def outcome (env : Environment) (now : Moment) (tag : UInt64) (r : Roster) (link : LinkNo)
    (source : PeerId) (kind : CommandTag) (payload : Bytes) : Except RelayFault Unit :=
  match kind with
  | .joinSession =>
    let (granted, shown) := r.grant env now tag source payload
    match shown with
    | .error e => .error e
    | .ok g => (granted.bind now.instant link source g).2.map fun _ => ()
  | .leaveSession => (r.leave link source).2
  | .kickPeer =>
    match Command.decodeKick payload with
    | .error e => .error (.ofCommand e)
    | .ok (target, banSeconds) =>
      (r.kick now.instant link source target banSeconds).2.map fun _ => ()
  | .rotateCookies => (r.rotate env now link source payload).2
  | _ => .ok ()

/-- A command that was refused left nothing behind, except that a join may have been granted
something before its session refused it, and then there may be a new account for the payment, with
all that this allows. -/
def Undone (env : Environment) (now : Moment) (tag : UInt64) (source : PeerId) (kind : CommandTag)
    (payload : Bytes) (r r' : Roster) : Prop :=
  r' = r ∨ kind = .joinSession ∧ (∃ g, (r.grant env now tag source payload).2 = .ok g) ∧
    ∃ a, payment env now tag source payload = some a ∧ r.ledger.payments.get? a.tag = none ∧
      r' = r.withAccount a

/-- A join that its session refuses leaves nothing behind but the account of its payment. -/
lemma undone_join (hr : r.Sound) (hu : r.Unbanned)
    (hg : (r.grant env now tag source cookie).2 = .ok g)
    (hbind : ((r.grant env now tag source cookie).1.bind now.instant link source g).2 = .error e) :
    Undone env now tag source .joinSession cookie r
      ((r.grant env now tag source cookie).1.bind now.instant link source g).1 := by
  have hsame (x : Roster) (hx : x.Sound) (hxu : x.Unbanned)
      (hx' : (x.bind now.instant link source g).2 = .error e) :
      (x.bind now.instant link source g).1 = x :=
    (binds_bind hx now.instant link source g).eq_of_error hxu hx'
  rcases grant_of_ok hg with hgrant | ⟨a, hpayment, hnone, hgrant⟩
  · rw [hgrant] at hbind ⊢
    exact .inl (hsame r hr hu hbind)
  · rw [hgrant] at hbind ⊢
    refine .inr ⟨rfl, ⟨g, hg⟩, a, hpayment, hnone, ?_⟩
    exact hsame (r.withAccount a) (hr.congr rfl rfl rfl) hu hbind

end Roster

namespace Relay

variable {env : Environment} {now : Moment} {r : Relay} {caller : LinkNo} {source target : PeerId}
  {cookie payload : Bytes} {g : Grant} {e : RelayFault} {p : PacketBuffer} {kind : CommandTag}

lemma of_map_error {ε α β : Type} {x : Except ε α} {f : α → β} {e : ε}
    (h : x.map f = .error e) : x = .error e := by
  cases x with
  | error e' => exact congrArg _ (Except.error.inj h)
  | ok a => contradiction

/-! ## What commands do to the roster -/

/-- A join that is not granted anything ends there. -/
lemma roster_obeyJoin_of_error (h : (r.grant env now source cookie).2 = .error e) :
    (r.obeyJoin env now caller source cookie).1.roster =
      (r.grant env now source cookie).1.roster := by
  simp only [obeyJoin, h]
  exact keeps_sendCommand.roster

/-- A join that the session refuses ends after the bind. -/
lemma roster_obeyJoin_of_bind_error (h : (r.grant env now source cookie).2 = .ok g)
    (hbind : ((r.grant env now source cookie).1.roster.bind now.instant caller source g).2 =
      .error e) :
    (r.obeyJoin env now caller source cookie).1.roster =
      ((r.grant env now source cookie).1.roster.bind now.instant caller source g).1 := by
  simp only [obeyJoin, h, hbind]
  exact keeps_sendCommand.roster

/-- A command that is refused is undone. -/
lemma undone_obey (hr : r.roster.Sound) (hu : r.roster.Unbanned)
    (htarget : r.desk.packet.target.isServer = true)
    (hcommand : r.desk.packet.command = .ok (kind, payload))
    (hrefused : r.roster.outcome env now (env.tag r.tagsDrawn) caller r.desk.packet.source kind
      payload = .error e) :
    r.roster.Undone env now (env.tag r.tagsDrawn) r.desk.packet.source kind payload
      (r.obey env now caller).1.roster := by
  simp only [obey, htarget, hcommand, Bool.not_true, Bool.false_eq_true, if_false]
  cases kind with
  | joinSession =>
      have hgrant : (r.grant env now r.desk.packet.source payload).1.roster =
        (r.roster.grant env now (env.tag r.tagsDrawn) r.desk.packet.source payload).1 := rfl
      cases hg : (r.roster.grant env now (env.tag r.tagsDrawn) r.desk.packet.source payload).2 with
      | error e' =>
          dsimp only
          rw [roster_obeyJoin_of_error hg, hgrant, Roster.grant_of_error hg]
          exact .inl rfl
      | ok g =>
          have hbind : ((r.grant env now r.desk.packet.source payload).1.roster.bind now.instant
              caller r.desk.packet.source g).2 = .error e := by
            simp only [Roster.outcome, hg] at hrefused
            exact of_map_error hrefused
          dsimp only
          rw [roster_obeyJoin_of_bind_error hg hbind, hgrant]
          exact Roster.undone_join hr hu hg hbind
  | leaveSession =>
      refine .inl ?_
      dsimp only
      rw [keeps_obeyLeave.roster]
      exact Roster.leave_of_error hrefused
  | kickPeer =>
      refine .inl ?_
      dsimp only
      cases hdecode : Command.decodeKick payload with
      | error e' => rfl
      | ok kick =>
          rcases kick with ⟨target, banSeconds⟩
          simp only [Roster.outcome, hdecode] at hrefused
          dsimp only
          rw [keeps_obeyKick.roster]
          exact (Roster.kicks_kick hr now.instant caller _ target banSeconds).eq_of_error
            (of_map_error hrefused)
  | rotateCookies =>
      refine .inl ?_
      dsimp only
      rw [keeps_obeyRotate.roster]
      exact (Roster.rotates_rotate hr env now caller _ payload).eq_of_error hrefused
  | _ => contradiction

/-- **A command that is refused changes nothing**, but a join that was granted something and then
refused by its session may have opened the account of its payment.  The message may come in any
state that a relay reaches, on any connection. -/
theorem roster_of_refused (h : Reachable env r) (now : Moment) (sender : LinkNo) (p : PacketBuffer)
    (hserver : p.source ≠ p.target) (htarget : p.target.isServer = true)
    (hcommand : p.command = .ok (kind, payload))
    (hrefused : r.roster.outcome env now (env.tag r.tagsDrawn) sender p.source kind payload =
      .error e) :
    r.roster.Undone env now (env.tag r.tagsDrawn) p.source kind payload
      ((r.setPacket p).handle env now sender p.size).roster := by
  have hunbanned : r.roster.Unbanned := by
    rcases h.exists_run with ⟨acts, hacts⟩
    rw [hacts]
    exact Roster.unbanned_run env acts
  have hsound : r.roster.Sound := h.orderly.roster.sound
  unfold handle
  dsimp only
  split
  · exact .inl rfl
  split
  · exact .inl rfl
  rename_i window _
  have hobey : Roster.Undone env now (env.tag r.tagsDrawn) p.source kind payload r.roster
      (((r.setPacket p).changeLink sender fun l =>
        { l with window }).obey env now sender).1.roster :=
    undone_obey hsound hunbanned htarget hcommand hrefused
  rw [if_pos (show (r.setPacket p).desk.packet.source ≠ (r.setPacket p).desk.packet.target from
    hserver)]
  split <;> rename_i heq <;> rw [heq] at hobey <;> exact hobey

/-- The second of two peers, who is no admin, would kick the first out for a minute. -/
def mutiny : PacketBuffer :=
  PacketBuffer.empty.fill (Frame.encode ⟨PeerId.server, ⟨2⟩, 2, (Command.kickPeer ⟨1⟩ 60).data⟩)
    (by decide)

/-- The kick is refused, and the roster is what the two joins made it. -/
theorem roster_of_refused_mutiny :
    let r := start.run openServer pairJoins
    r.roster.outcome openServer default 2 1 ⟨2⟩ .kickPeer (Command.kickPeer ⟨1⟩ 60).payload =
        .error (.coded .sourcePeerNotAdmin) ∧
      ((r.setPacket mutiny).handle openServer default 1 mutiny.size).roster = r.roster := by
  intro r
  have hrefused : r.roster.outcome openServer default 2 1 ⟨2⟩ .kickPeer
      (Command.kickPeer ⟨1⟩ 60).payload = .error (.coded .sourcePeerNotAdmin) := by
    decide +kernel
  have hdrawn : openServer.tag r.tagsDrawn = 2 := by decide +kernel
  refine ⟨hrefused, ?_⟩
  rcases roster_of_refused (Reachable.start.run pairJoins) default 1 mutiny (by decide +kernel)
    (by decide +kernel) (by decide +kernel) (hdrawn ▸ hrefused) with hsame | ⟨hjoin, -⟩
  · exact hsame
  · contradiction

end Relay

end MeteredRelay
