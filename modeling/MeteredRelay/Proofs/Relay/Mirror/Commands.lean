import MeteredRelay.Proofs.Relay.Mirror
import MeteredRelay.Proofs.Roster.Lasting

/-!
# A sealed command is obeyed like one in clear

Two servers of which one seals obey the same command in the same way (`Twins.obey`).  Every answer
is a frame that does not depend on what else is in the buffer, and short, so that a seal is no
obstacle to it.  The one message that goes to another connection tells a peer that it was kicked;
that peer was bound, so its connection has an address and is one of those that both servers have.
-/

namespace MeteredRelay

/-- The data of a command are its tag byte and its payload. -/
lemma Command.data_of_split {data payload : Bytes} {tag : CommandTag}
    (h : Command.split data = .ok (tag, payload)) : ∃ b, data = b :: payload := by
  cases data with
  | nil => contradiction
  | cons b rest =>
      refine ⟨b, ?_⟩
      simp only [Command.split] at h
      cases ht : CommandTag.ofByte b with
      | error e =>
          rw [ht] at h
          contradiction
      | ok t =>
          rw [ht] at h
          cases h
          rfl

namespace Relay

variable {env : Environment} {keys : LinkNo → Key} {sent sent' : List Parcel} {r q : Relay}
  {caller : LinkNo} {payload : Bytes}

/-- A peer that is kicked is reached through a connection with an address. -/
lemma hasAddress_of_kick (hq : q.roster.Sound) (hhoused : q.Housed) (now : Instant)
    (caller : LinkNo) (source target : PeerId) (banSeconds : UInt32) :
    ∀ held, (q.roster.kick now caller source target banSeconds).2 = .ok held →
      q.HasAddress held := by
  intro held hok
  have hkicks := Roster.kicks_kick hq now caller source target banSeconds
  rw [hok] at hkicks
  revert hkicks
  generalize (q.roster.kick now caller source target banSeconds).1 = x
  rintro (- | @⟨b, t, hb, hadmin, ht⟩)
  exact hhoused t.seat t (hq.joined_of_mem (Session.mem_of_find? ht))

lemma disclosedCode_plain {α : Type} (outcome : Except RelayFault α) :
    disclosedCode env.plain outcome = disclosedCode env outcome := rfl

namespace Twins

lemma grant (h : Twins env keys sent sent' r q) (now : Moment) (peer : PeerId) (cookie : Bytes) :
    Twins env keys sent sent' (r.grant env now peer cookie).1
        (q.grant env.plain now peer cookie).1 ∧
      (r.grant env now peer cookie).2 = (q.grant env.plain now peer cookie).2 := by
  rcases h.roster.grant env now (env.tag r.tagsDrawn) peer cookie with ⟨halike, hsame⟩
  have hdrawn := h.drawn
  simp only [Relay.grant]
  rw [hdrawn] at halike hsame ⊢
  exact ⟨⟨⟨halike, rfl, h.established, h.link⟩, h.exist, h.outbox⟩, hsame⟩

lemma obeyJoin (h : Twins env keys sent sent' r q) (hA : env.cipher.Opens)
    (hcaller : q.HasAddress caller) (now : Moment) (source : PeerId) (cookie : Bytes) :
    Twins env keys sent sent' (r.obeyJoin env now caller source cookie).1
        (q.obeyJoin env.plain now caller source cookie).1 ∧
      (r.obeyJoin env now caller source cookie).2 =
        (q.obeyJoin env.plain now caller source cookie).2 := by
  obtain ⟨hxy, hgranted⟩ := h.grant now source cookie
  have hcaller' : (q.grant env.plain now source cookie).1.HasAddress caller := hcaller
  simp only [Relay.obeyJoin, disclosedCode_plain]
  generalize r.grant env now source cookie = x at hxy hgranted ⊢
  generalize q.grant env.plain now source cookie = y at hxy hgranted hcaller' ⊢
  rcases x with ⟨x, granted⟩
  rcases y with ⟨y, granted'⟩
  obtain rfl : granted = granted' := hgranted
  cases granted with
  | error e =>
      have hsent := hxy.sendCommand hA hcaller' source
        (c := .joinSessionReply (disclosedCode env (.error e : Except RelayFault Unit)))
        (by simp [Command.payload, maxPingSize])
      exact ⟨hsent.1, rfl⟩
  | ok g =>
      obtain ⟨hbound, hend⟩ := hxy.roster.bind now.instant caller source g
      dsimp only at hbound hend ⊢
      generalize x.roster.bind now.instant caller source g = w at hbound hend ⊢
      generalize y.roster.bind now.instant caller source g = z at hbound hend ⊢
      rcases w with ⟨w, bound⟩
      rcases z with ⟨z, bound'⟩
      obtain rfl : bound = bound' := hend
      obtain ⟨hsent, hok, hok'⟩ := (hxy.setRoster hbound).sendCommand hA hcaller' source
        (c := .joinSessionReply (disclosedCode env bound)) (by simp [Command.payload, maxPingSize])
      dsimp only
      generalize Relay.sendCommand env _ caller source _ = u at hsent hok ⊢
      generalize Relay.sendCommand env.plain _ caller source _ = v at hsent hok' ⊢
      cases bound with
      | error e => exact ⟨hsent, hok.trans hok'.symm⟩
      | ok n => exact ⟨hsent.setRoster (hsent.roster.forceListing n), hok.trans hok'.symm⟩

lemma obeyLeave (h : Twins env keys sent sent' r q) (hA : env.cipher.Opens)
    (hcaller : q.HasAddress caller) (source : PeerId) :
    Twins env keys sent sent' (r.obeyLeave env caller source).1
        (q.obeyLeave env.plain caller source).1 ∧
      (r.obeyLeave env caller source).2 = (q.obeyLeave env.plain caller source).2 := by
  rcases h.roster.leave caller source with ⟨hleft, hend⟩
  simp only [Relay.obeyLeave, hend]
  obtain ⟨hsent, hok, hok'⟩ := (h.setRoster hleft).sendCommand hA hcaller source
    (c := .leaveSessionReply (disclosedCode env (q.roster.leave caller source).2))
    (by simp [Command.payload, maxPingSize])
  exact ⟨hsent, hok.trans hok'.symm⟩

lemma obeyRotate (h : Twins env keys sent sent' r q) (hA : env.cipher.Opens)
    (hcaller : q.HasAddress caller) (now : Moment) (source : PeerId) (cookie : Bytes) :
    Twins env keys sent sent' (r.obeyRotate env now caller source cookie).1
        (q.obeyRotate env.plain now caller source cookie).1 ∧
      (r.obeyRotate env now caller source cookie).2 =
        (q.obeyRotate env.plain now caller source cookie).2 := by
  rcases h.roster.rotate env now caller source cookie with ⟨hrotated, hend⟩
  have hplain : q.roster.rotate env.plain now caller source cookie =
      q.roster.rotate env now caller source cookie := rfl
  simp only [Relay.obeyRotate, hend, hplain, disclosedCode_plain]
  obtain ⟨hsent, hok, hok'⟩ := (h.setRoster hrotated).sendCommand hA hcaller source
    (c := .rotateCookiesReply (disclosedCode env (q.roster.rotate env now caller source cookie).2))
    (by simp [Command.payload, maxPingSize])
  exact ⟨hsent, by rw [hok, hok']⟩

/-- A peer that is kicked hears of it on its connection. -/
lemma obeyKick (h : Twins env keys sent sent' r q) (hA : env.cipher.Opens)
    (hq : q.roster.Sound) (hhoused : q.Housed) (hcaller : q.HasAddress caller) (now : Moment)
    (source target : PeerId) (banSeconds : UInt32) :
    Twins env keys sent sent' (r.obeyKick env now caller source target banSeconds).1
        (q.obeyKick env.plain now caller source target banSeconds).1 ∧
      (r.obeyKick env now caller source target banSeconds).2 =
        (q.obeyKick env.plain now caller source target banSeconds).2 := by
  rcases h.roster.kick now.instant caller source target banSeconds with ⟨hkicked, hend⟩
  have hheld := hasAddress_of_kick hq hhoused now.instant caller source target banSeconds
  simp only [Relay.obeyKick, hend, disclosedCode_plain]
  generalize (r.roster.kick now.instant caller source target banSeconds).1 = x at hkicked ⊢
  generalize q.roster.kick now.instant caller source target banSeconds = y at hkicked hheld ⊢
  rcases y with ⟨y, kicked⟩
  have hset : Twins env keys sent sent' (r.setRoster x) (q.setRoster y) := h.setRoster hkicked
  have hreply (x y : Relay) (hxy : Twins env keys sent sent' x y) (hy : y.HasAddress caller) :=
    hxy.sendCommand hA hy source (c := .kickPeerReply target (disclosedCode env kicked))
      (by simp [Command.payload, maxPingSize])
  cases kicked with
  | error e =>
      obtain ⟨hsent, hok, hok'⟩ := hreply _ _ hset hcaller
      exact ⟨hsent, by simp only [hok, hok']⟩
  | ok held =>
      have htold := (hset.sendCommand hA (hheld held rfl) target (c := .kickPeer target banSeconds)
        (by simp [Command.payload, maxPingSize])).1
      obtain ⟨hsent, hok, hok'⟩ := hreply _ _ htold (by
        rw [HasAddress, keeps_sendCommand.addresses]
        exact hcaller)
      exact ⟨hsent, by simp only [hok, hok']⟩

/-- Both answer a ping with its payload, or both find that it came too soon. -/
lemma obeyPing (h : Twins env keys sent sent' r q) (hA : env.cipher.Opens)
    (hcaller : q.HasAddress caller) {b : UInt8} (hr : r.desk.packet.data = b :: payload)
    (hq : q.desk.packet.data = b :: payload) (now : Moment) (source : PeerId) :
    Twins env keys sent sent' (r.obeyPing env now caller source payload).1
        (q.obeyPing env.plain now caller source payload).1 ∧
      (r.obeyPing env now caller source payload).2 =
        (q.obeyPing env.plain now caller source payload).2 := by
  have hnoted : Twins env keys sent sent' (r.changeLink caller (·.notePing now.instant))
      (q.changeLink caller (·.notePing now.instant)) :=
    h.changeLink (f := (·.notePing now.instant)) ⟨fun _ _ => rfl, fun _ => rfl⟩ caller
  have hlast : (r.link caller).lastPing = (q.link caller).lastPing := by
    rw [(h.link caller hcaller).1]
  have hinterval : env.plain.settings.minPingInterval = env.settings.minPingInterval := rfl
  simp only [Relay.obeyPing, hlast, hinterval]
  split
  · exact ⟨h, rfl⟩
  rename_i hshort
  obtain ⟨hheader, hdata⟩ := PacketBuffer.setTag_eq hr .pong
  obtain ⟨hheader', hdata'⟩ := PacketBuffer.setTag_eq hq .pong
  have hfew : (r.desk.packet.setTag .pong).data.length ≤ maxPingSize + 1 := by
    rw [hdata, List.length_cons]
    omega
  obtain ⟨hsent, hok, hok'⟩ := (hnoted.setPacket (r.desk.packet.setTag .pong)
    (q.desk.packet.setTag .pong)).reply hA hcaller hheader hheader' (hdata.trans hdata'.symm) hfew
    source
  split
  · split
    · exact ⟨hnoted, rfl⟩
    · exact ⟨hsent, hok.trans hok'.symm⟩
  · exact ⟨hsent, hok.trans hok'.symm⟩

lemma obeyPong (h : Twins env keys sent sent' r q) (payload : Bytes) :
    Twins env keys sent sent' (r.obeyPong payload).1 (q.obeyPong payload).1 ∧
      (r.obeyPong payload).2 = (q.obeyPong payload).2 := by
  simp only [Relay.obeyPong]
  split <;> exact ⟨h, rfl⟩

/-- Both obey the same command in the same way. -/
lemma obey (h : Twins env keys sent sent' r q) (hA : env.cipher.Opens) (hq : q.roster.Sound)
    (hhoused : q.Housed) (hcaller : q.HasAddress caller) (hsame : SameMessage r q) (now : Moment) :
    Twins env keys sent sent' (r.obey env now caller).1 (q.obey env.plain now caller).1 ∧
      (r.obey env now caller).2 = (q.obey env.plain now caller).2 := by
  simp only [Relay.obey, PacketBuffer.target_congr hsame.bytes hsame.header,
    PacketBuffer.source_congr hsame.bytes hsame.header, PacketBuffer.command_congr hsame.bytes]
  split
  · exact ⟨h, rfl⟩
  split
  · exact ⟨h, rfl⟩
  · rename_i tag payload hcommand
    cases tag with
    | ping =>
        obtain ⟨b, hb⟩ := Command.data_of_split hcommand
        exact h.obeyPing hA hcaller ((PacketBuffer.data_congr hsame.bytes).trans hb) hb now _
    | pong => exact h.obeyPong payload
    | joinSession => exact h.obeyJoin hA hcaller now _ payload
    | leaveSession => exact h.obeyLeave hA hcaller _
    | kickPeer =>
        dsimp only
        split
        · exact ⟨h, rfl⟩
        · exact h.obeyKick hA hq hhoused hcaller now _ _ _
    | rotateCookies => exact h.obeyRotate hA hcaller now _ payload
    | _ => exact ⟨h, rfl⟩

end Twins

end Relay

end MeteredRelay
