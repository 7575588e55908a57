import MeteredRelay.Proofs.Clock
import MeteredRelay.Proofs.Relay.Discretion

/-!
# How often a client may ping

A ping to the server is noted with its connection before the server decides about it, so one that
is refused puts off the next one too: what counts is the time since the ping before, whatever became
of that.  The time is kept in one word, in which zero stands for "never".

A connection remembers the last of its pings (**`lastPing_obeyAll`**): all other commands, those of
other connections and oversized pings leave the word alone (`lastPing_obeyOne_of_none`).  As long as
the word can hold the times exactly, a ping is answered if and only if the one before it is the
least interval away (**`pings_spaced`**).
-/

namespace MeteredRelay

/-- A message for the server, with the moment and the connection that it came at. -/
structure Incoming where
  received : Moment
  caller : LinkNo
  packet : PacketBuffer

/-- What a message pings the server with on a connection, if it does so and is not oversized. -/
def Incoming.ping? (n : LinkNo) (c : Incoming) : Option Bytes :=
  if c.caller = n ∧ c.packet.target.isServer = true then
    match c.packet.command with
    | .ok (.ping, payload) => if payload.length ≤ maxPingSize then some payload else none
    | _ => none
  else none

/-- When the server was pinged on a connection. -/
def pingTimes (n : LinkNo) (cs : List Incoming) : List Instant :=
  cs.filterMap fun c => (c.ping? n).map fun _ => c.received.instant

/-- A ping is the least interval away from the last of those before it. -/
def Environment.Spaced (env : Environment) (before : List Instant) (t : Instant) : Prop :=
  ∀ last ∈ before.getLast?, (env.settings.minPingInterval : Int) ≤ t - last

instance {env : Environment} {before : List Instant} {t : Instant} :
    Decidable (env.Spaced before t) :=
  inferInstanceAs (Decidable (∀ last ∈ before.getLast?, _ ≤ t - last))

lemma Incoming.ping?_eq_some_iff {n : LinkNo} {c : Incoming} {payload : Bytes} :
    c.ping? n = some payload ↔ c.caller = n ∧ c.packet.target.isServer = true ∧
      c.packet.command = .ok (.ping, payload) ∧ payload.length ≤ maxPingSize := by
  constructor
  · intro h
    unfold ping? at h
    split at h
    · rename_i hcalls
      split at h
      · rename_i found hcommand
        split at h
        · rename_i hshort
          obtain rfl := Option.some.inj h
          exact ⟨hcalls.1, hcalls.2, hcommand, hshort⟩
        · contradiction
      · contradiction
    · contradiction
  · rintro ⟨hcaller, htarget, hcommand, hshort⟩
    simp only [ping?, hcaller, htarget, hcommand, and_self, if_true, if_pos hshort]

namespace Relay

/-- The relay after it obeyed a message, and what came of it. -/
def obeyOne (env : Environment) (r : Relay) (c : Incoming) : Relay × Except RelayFault Unit :=
  (r.setPacket c.packet).obey env c.received c.caller

/-- The relay after it obeyed several messages, one after the other. -/
def obeyAll (env : Environment) (r : Relay) (cs : List Incoming) : Relay :=
  cs.foldl (fun r c => (r.obeyOne env c).1) r

/-- A ping is answered if a condition holds: exactly one message is handed out, which carries its
payload back to the peer that it is from.  Otherwise nothing is handed out, and the ping is reported
as one that comes too soon. -/
structure PongsIff (condition : Prop) (n : LinkNo) (source : PeerId) (payload : Bytes) (r : Relay)
    (after : Relay × Except RelayFault Unit) : Prop where
  answered : Replies n source (.pong payload) r after.1 ↔ condition
  accepted : after.2 = .ok () ↔ condition
  refused : ¬ condition → ∃ since, after.2 = .error (.pingTooRecent since)
  silent : ¬ condition → after.1.outbox = r.outbox

variable {env : Environment} {now : Moment} {r r' : Relay} {n : LinkNo} {source : PeerId}
  {payload : Bytes} {last created : Instant} {c : Incoming} {cs before : List Incoming}

lemma obeyAll_concat (env : Environment) (r : Relay) (cs : List Incoming) (c : Incoming) :
    r.obeyAll env (cs ++ [c]) = ((r.obeyAll env cs).obeyOne env c).1 := by
  rw [obeyAll, List.foldl_append]
  rfl

lemma size_obeyOne (env : Environment) (r : Relay) (c : Incoming) :
    (r.obeyOne env c).1.links.size = r.links.size :=
  (blames_obey env c.received (r.setPacket c.packet) c.caller).size

lemma size_obeyAll (env : Environment) (r : Relay) (cs : List Incoming) :
    (r.obeyAll env cs).links.size = r.links.size := by
  induction cs using List.reverseRecOn with
  | nil => rfl
  | append_singleton cs c ih => rw [obeyAll_concat, size_obeyOne, ih]

/-! ## What a ping is decided by -/

/-- A ping that comes late enough is noted and answered. -/
lemma obeyPing_of_late (hshort : payload.length ≤ maxPingSize)
    (hlate : ∀ last ∈ (r.link n).lastPing.load,
      env.settings.minPingInterval ≤ now.instant.since last) :
    r.obeyPing env now n source payload =
      ((r.changeLink n (·.notePing now.instant)).setPacket (r.desk.packet.setTag .pong)).reply
        env n source := by
  rw [obeyPing, if_neg (Nat.not_lt_of_le hshort)]
  cases hload : (r.link n).lastPing.load with
  | none => rfl
  | some last =>
      have hspan : ¬ now.instant.since last < env.settings.minPingInterval :=
        Nat.not_lt_of_le (hlate last hload)
      simp only [Option.map_some, if_neg hspan]
      rfl

/-- A ping that comes too early is noted and refused. -/
lemma obeyPing_of_early (hshort : payload.length ≤ maxPingSize)
    (hload : (r.link n).lastPing.load = some last)
    (hearly : now.instant.since last < env.settings.minPingInterval) :
    r.obeyPing env now n source payload =
      (r.changeLink n (·.notePing now.instant),
        .error (.pingTooRecent (now.instant.since last))) := by
  rw [obeyPing, if_neg (Nat.not_lt_of_le hshort)]
  simp only [hload, Option.map_some, if_pos hearly]

/-- **The decision rests on what the connection remembers.** -/
lemma pongsIff_obeyPing (env : Environment) (now : Moment) (n : LinkNo) (source : PeerId)
    (hping : r.desk.packet.command = .ok (.ping, payload))
    (hshort : payload.length ≤ maxPingSize) :
    PongsIff (∀ last ∈ (r.link n).lastPing.load,
        env.settings.minPingInterval ≤ now.instant.since last) n source payload r
      (r.obeyPing env now n source payload) := by
  by_cases hlate : ∀ last ∈ (r.link n).lastPing.load,
      env.settings.minPingInterval ≤ now.instant.since last
  · obtain ⟨b, hb⟩ := Command.data_of_split hping
    obtain ⟨hheader, hdata⟩ := PacketBuffer.setTag_eq hb .pong
    obtain ⟨hreplies, hok⟩ := replies_reply (c := .pong payload) env
      ((r.changeLink n (·.notePing now.instant)).setPacket (r.desk.packet.setTag .pong)) n source
      hheader hdata hshort
    have hview {α : Type} {view : Link → α} (hnote : ∀ l, view (l.notePing now.instant) = view l) :
        view ((r.changeLink n (·.notePing now.instant)).link n) = view (r.link n) :=
      view_changeLink hnote r n n
    rw [obeyPing_of_late hshort hlate]
    exact ⟨iff_of_true (hreplies.of_quiet rfl (hview fun _ => rfl) (hview fun _ => rfl)) hlate,
      iff_of_true hok hlate, fun h => absurd hlate h, fun h => absurd hlate h⟩
  · obtain ⟨last, hload, hearly⟩ : ∃ last ∈ (r.link n).lastPing.load,
        now.instant.since last < env.settings.minPingInterval := by
      simpa only [not_forall, exists_prop, Nat.not_le] using hlate
    rw [obeyPing_of_early hshort hload hearly]
    refine ⟨iff_of_false ?_ hlate, iff_of_false nofun hlate, fun _ => ⟨_, rfl⟩, fun _ => rfl⟩
    rintro ⟨wire, hreplied, -⟩
    exact absurd (congrArg List.length hreplied.symm) (by simp [changeLink])

/-! ## What a connection remembers -/

/-- The last ping of a connection is part of what it is judged by. -/
lemma Blames.lastPing (h : Blames (n + 1) 0 r r') : (r'.link n).lastPing = (r.link n).lastPing :=
  congrArg Link.Conduct.lastPing (h.others n (Nat.ne_of_lt n.lt_succ_self))

lemma lastPing_deed (hdeed : Deed env c.received c.caller c.packet r r') (hc : c.ping? n = none) :
    (r'.link n).lastPing = (r.link n).lastPing := by
  cases hdeed with
  | noted htarget hping hshort =>
      have hcaller : n ≠ c.caller := by
        rintro rfl
        rw [Incoming.ping?_eq_some_iff.mpr ⟨rfl, htarget, hping, hshort⟩] at hc
        contradiction
      rw [link_changeLink_of_ne hcaller]
  | ponged => exact (blames_reply.after (.of_links rfl)).lastPing
  | redeemed | acted => exact (Blames.of_links rfl).lastPing
  | kicked => exact (blames_sendCommand.after (.of_links rfl)).lastPing
  | sent => exact blames_sendCommand.lastPing

/-- What is no ping on a connection leaves the time of its last ping alone. -/
lemma lastPing_obeyOne_of_none (hc : c.ping? n = none) :
    ((r.obeyOne env c).1.link n).lastPing = (r.link n).lastPing :=
  (deeds_obey env c.received (r.setPacket c.packet) c.caller).induction
    (R := fun x y => (y.link n).lastPing = (x.link n).lastPing) rfl
    fun hdeed ih => (lastPing_deed hdeed hc).trans ih

lemma obeyOne_eq_obeyPing (hc : c.ping? n = some payload) :
    r.obeyOne env c =
      (r.setPacket c.packet).obeyPing env c.received n c.packet.source payload := by
  obtain ⟨rfl, htarget, hcommand, -⟩ := Incoming.ping?_eq_some_iff.mp hc
  have htarget' : (r.setPacket c.packet).desk.packet.target.isServer = true := htarget
  have hcommand' : (r.setPacket c.packet).desk.packet.command = .ok (.ping, payload) := hcommand
  simp only [obeyOne, obey, htarget', hcommand', Bool.not_true, Bool.false_eq_true, if_false]
  rfl

/-- A ping is remembered, whatever becomes of it. -/
lemma lastPing_obeyOne_of_some (hn : n < r.links.size) (hc : c.ping? n = some payload) :
    ((r.obeyOne env c).1.link n).lastPing = (r.link n).lastPing.store c.received.instant := by
  obtain ⟨-, -, -, hshort⟩ := Incoming.ping?_eq_some_iff.mp hc
  have hnoted : (((r.setPacket c.packet).changeLink n
      (·.notePing c.received.instant)).link n).lastPing =
        (r.link n).lastPing.store c.received.instant := by
    rw [link_changeLink_self (r := r.setPacket c.packet) hn]
    rfl
  rw [obeyOne_eq_obeyPing hc, ← hnoted]
  by_cases hlate : ∀ last ∈ ((r.setPacket c.packet).link n).lastPing.load,
      env.settings.minPingInterval ≤ c.received.instant.since last
  · rw [obeyPing_of_late hshort hlate]
    exact (blames_reply.after (.of_links rfl)).lastPing
  · push Not at hlate
    obtain ⟨last, hload, hearly⟩ := hlate
    rw [obeyPing_of_early hshort hload hearly]

/-- **A connection remembers the last of its pings.** -/
theorem lastPing_obeyAll (hn : n < r.links.size) (env : Environment) (cs : List Incoming) :
    ((r.obeyAll env cs).link n).lastPing =
      ((pingTimes n cs).getLast?).elim (r.link n).lastPing (r.link n).lastPing.store := by
  induction cs using List.reverseRecOn with
  | nil => rfl
  | append_singleton cs c ih =>
      have hlt : n < (r.obeyAll env cs).links.size := by rwa [size_obeyAll]
      rw [obeyAll_concat, pingTimes, List.filterMap_append, ← pingTimes]
      cases hc : c.ping? n with
      | none =>
          rw [lastPing_obeyOne_of_none hc, ih]
          simp [hc]
      | some payload =>
          -- what was stored before is overwritten
          have hstore (t : Instant) : ((r.obeyAll env cs).link n).lastPing.store t =
              (r.link n).lastPing.store t := by
            rw [ih]
            cases (pingTimes n cs).getLast? <;> rfl
          rw [lastPing_obeyOne_of_some hlt hc, hstore]
          simp [hc]

/-- The time that a connection remembers is that of its last ping. -/
lemma load_lastPing_obeyAll (hn : n < r.links.size) (hnew : (r.link n).lastPing = .unset created)
    (env : Environment)
    (hheld : ∀ t ∈ pingTimes n cs, created ≤ t ∧ t - created < 2 ^ 64 - 2) :
    ((r.obeyAll env cs).link n).lastPing.load = (pingTimes n cs).getLast? := by
  rw [lastPing_obeyAll hn, hnew]
  cases hlast : (pingTimes n cs).getLast? with
  | none => rfl
  | some t =>
      obtain ⟨hle, hlt⟩ := hheld t (List.mem_of_getLast? hlast)
      have hsize : UInt64.size = 2 ^ 64 := rfl
      have hbase : (Timestamp.unset created).base = created := rfl
      have hshort : (t.since created : Int) < 2 ^ 64 - 2 := by rwa [Instant.since_eq hle]
      have hfits : t.since (Timestamp.unset created).base < UInt64.size - 1 := by
        rw [hbase]
        omega
      rw [Option.elim_some, Timestamp.load_store _ _ hfits, hbase, Instant.since_eq hle,
        add_sub_cancel]

/-- **Pings are spaced.**  A connection was made and not pinged since, and then messages are obeyed
that come on it and on others: commands of any kind, well formed or not, and pings, of which those
on the connection that are not oversized come in order, and at times that it can remember.  Such a
ping is answered if and only if it is the first, or the least interval passed since the one before,
be that answered or not. -/
theorem pings_spaced (env : Environment) {r : Relay} {n : LinkNo} {l : Link} {created : Instant}
    (hlink : r.links.get? n = some l) (hnew : l.lastPing = .unset created) (cs : List Incoming)
    (hordered : (pingTimes n cs).Pairwise (· ≤ ·))
    (hheld : ∀ t ∈ pingTimes n cs, created ≤ t ∧ t - created < 2 ^ 64 - 2) :
    ∀ before c after payload, cs = before ++ c :: after → c.ping? n = some payload →
      PongsIff (env.Spaced (pingTimes n before) c.received.instant) n c.packet.source payload
        (r.obeyAll env before) ((r.obeyAll env before).obeyOne env c) := by
  intro before c after payload hcs hc
  obtain ⟨-, -, hcommand, hshort⟩ := Incoming.ping?_eq_some_iff.mp hc
  have htimes : pingTimes n cs =
      pingTimes n before ++ c.received.instant :: pingTimes n after := by
    rw [hcs, pingTimes, List.filterMap_append, List.filterMap_cons, hc]
    rfl
  have hn : n < r.links.size := Store.get?_isSome_iff.mp (by rw [hlink]; rfl)
  have hlast : (r.link n).lastPing = .unset created := by rw [link, hlink, Option.getD_some, hnew]
  have hload : ((r.obeyAll env before).link n).lastPing.load = (pingTimes n before).getLast? :=
    load_lastPing_obeyAll hn hlast env fun t ht =>
      hheld t (by rw [htimes]; exact List.mem_append_left _ ht)
  have hspaced : (∀ last ∈ ((r.obeyAll env before).link n).lastPing.load,
      env.settings.minPingInterval ≤ c.received.instant.since last) ↔
        env.Spaced (pingTimes n before) c.received.instant := by
    rw [hload, Environment.Spaced]
    refine forall₂_congr fun last hmem => ?_
    rw [htimes, List.pairwise_append] at hordered
    have hle := hordered.2.2 last (List.mem_of_getLast? hmem) _ List.mem_cons_self
    rw [← Instant.since_eq hle]
    exact Int.ofNat_le.symm
  have hpongs := pongsIff_obeyPing (r := (r.obeyAll env before).setPacket c.packet) env c.received n
    c.packet.source hcommand hshort
  rw [obeyOne_eq_obeyPing hc, ← hspaced]
  exact ⟨hpongs.answered, hpongs.accepted, hpongs.refused, hpongs.silent⟩

/-- The first peer asks the server for something on the first connection. -/
def firstAsks (seconds : Nat) (tag : CommandTag) (payload : Bytes) : Incoming where
  received := ⟨Span.seconds seconds, 0⟩
  caller := 0
  packet := ((PacketBuffer.empty.setCommand tag payload).toOption.getD .empty).setSource ⟨1⟩

/-- A peer pings, and pings again after four seconds, which is refused where five must pass, and
then five seconds after this, which is answered.  An oversized ping and a leave between do not
count. -/
theorem pings_spaced_after_refusal :
    let env := Roster.zeroKeyServer
    let r := (start.addLink (.plain default 0)).1
    let before := [firstAsks 0 .ping [1], firstAsks 2 .ping (List.replicate 65 0),
      firstAsks 3 .leaveSession []]
    let early := firstAsks 4 .ping [2]
    let late := firstAsks 9 .ping [3]
    pingTimes 0 (before ++ [early, late]) = [0, 4000000000, 9000000000] ∧
    (∃ since, ((r.obeyAll env before).obeyOne env early).2 = .error (.pingTooRecent since)) ∧
    Replies 0 ⟨1⟩ (.pong [3]) (r.obeyAll env (before ++ [early]))
      ((r.obeyAll env (before ++ [early])).obeyOne env late).1 := by
  intro env r before early late
  have htimes : pingTimes 0 (before ++ [early, late]) = [0, 4000000000, 9000000000] := by
    decide +kernel
  have hnew : (Link.plain default 0).lastPing = .unset 0 := rfl
  have hspaced := pings_spaced env (r := r) (n := 0) rfl hnew
    (before ++ [early, late]) (by rw [htimes]; decide) (by rw [htimes]; decide)
  have hearly := hspaced before early [late] [2] rfl (by decide +kernel)
  have hlate := hspaced (before ++ [early]) late [] [3] rfl (by decide +kernel)
  refine ⟨htimes, hearly.refused ?_, hlate.answered.mpr ?_⟩
  · rw [show pingTimes 0 before = [0] by decide +kernel]
    decide
  · rw [show pingTimes 0 (before ++ [early]) = [0, 4000000000] by decide +kernel]
    decide

end Relay

end MeteredRelay
