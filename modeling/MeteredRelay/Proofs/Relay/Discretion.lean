import MeteredRelay.Proofs.Relay.Admission
import MeteredRelay.Proofs.Relay.Numbering
import MeteredRelay.Proofs.Relay.Refusal

/-!
# What a discreet server tells

A join, a leave and a rotation may fail for many causes, and most of them depend on secrets: the
keys of the server, who is bound where, who is banned, which payments were redeemed.  The answer is
written into the very buffer that held the command, so beside its code its length, its number and
what the command left behind it might tell something too.

They do not.  Each of the three is answered exactly once in every case, on the connection that it
came from, and the answer is the frame of a reply under the next number of this connection
(**`replies_obey`**).  All that depends on the outcome is the code, and a server that does not
disclose causes sends no code but zero.  So two servers that are asked for the same thing under the
same name answer with the same bytes (**`answers_agree`**), whatever else they differ in, and with
datagrams of the same size, if both seal or neither does.
-/

namespace MeteredRelay

/-- How the server answers a join, a leave and a rotation. -/
def CommandTag.reply? : CommandTag → Option (ReplyCode → Command)
  | .joinSession => some .joinSessionReply
  | .leaveSession => some .leaveSessionReply
  | .rotateCookies => some .rotateCookiesReply
  | _ => none

/-- A message is a command of a peer to the server. -/
structure PacketBuffer.Calls (p : PacketBuffer) (source : PeerId) (tag : CommandTag)
    (payload : Bytes) : Prop where
  source : p.source = source
  target : p.target.isServer = true
  command : p.command = .ok (tag, payload)

namespace Relay

variable {env : Environment} {now : Moment} {r r' x : Relay} {n : LinkNo} {source : PeerId}
  {tag : CommandTag} {reply : ReplyCode → Command} {payload message : Bytes} {c : Command}

/-- How many bytes a message to a connection has when it is sent. -/
def sentSize (r : Relay) (n : LinkNo) (message : Bytes) : Nat :=
  message.length + if (r.link n).key.isSome then sealOverhead else 0

/-- All that was handed out is one command of the server to a peer, under the next number of a
connection, and it was sent. -/
def Replies (n : LinkNo) (target : PeerId) (c : Command) (r r' : Relay) : Prop :=
  let message := (c.toFrame target .server (r.link n).nextSequence).encode
  ∃ wire, r'.outbox = r.outbox ++ [⟨n, .server, message, .ok wire⟩] ∧
    wire.length = r.sentSize n message

namespace Replies

/-- Before the command nothing was handed out, and its connection took no number. -/
lemma of_quiet (h : Replies n source c x r') (houtbox : x.outbox = r.outbox)
    (hsent : (x.link n).sent = (r.link n).sent) (hkey : (x.link n).key = (r.link n).key) :
    Replies n source c r r' := by
  simpa only [Replies, sentSize, Link.nextSequence, houtbox, hsent, hkey] using h

/-- Before the command nothing was handed out, and no connection changed. -/
lemma after (h : Replies n source c x r') (houtbox : x.outbox = r.outbox)
    (hlinks : x.links = r.links) : Replies n source c r r' :=
  h.of_quiet houtbox (by rw [link_congr hlinks]) (by rw [link_congr hlinks])

/-- After the command nothing was handed out. -/
lemma before (h : Replies n source c r x) (houtbox : r'.outbox = x.outbox) :
    Replies n source c r r' := by
  rw [Replies, houtbox]
  exact h

end Replies

/-! ## Sending an answer -/

/-- A message that is short enough even under a seal is sent. -/
lemma exists_sent (env : Environment) (r : Relay) (n : LinkNo)
    (hfits : message.length + sealOverhead ≤ maxDatagramSize) :
    ∃ wire, (r.seal? env n message).2 = .ok wire ∧ wire.length = r.sentSize n message := by
  cases hkey : (r.link n).key with
  | none =>
      refine ⟨message, ?_, by simp [sentSize, hkey]⟩
      rw [seal_of_none hkey, datagramOf_of_le (by omega)]
  | some k =>
      refine ⟨env.cipher.sealed k (env.nonce r.noncesDrawn) [] message, ?_, ?_⟩
      · rw [seal_of_some hkey (hfits.trans (by decide)),
          datagramOf_of_le (by rwa [Aead.length_sealed])]
      · rw [Aead.length_sealed, sentSize, hkey]
        rfl

/-- An answer with a short payload is sent, whatever header it is written behind. -/
lemma replies_reply (env : Environment) (r : Relay) (n : LinkNo) (target : PeerId)
    (hheader : r.desk.packet.hasHeader = true) (hdata : r.desk.packet.data = c.data)
    (hshort : c.payload.length ≤ maxPingSize) :
    Replies n target c r (r.reply env n target).1 ∧ (r.reply env n target).2 = .ok () := by
  have hbytes (k : UInt32) :
      (r.desk.packet.setReplyHeader target k).bytes = (c.toFrame target .server k).encode := by
    rw [PacketBuffer.bytes_reply hheader, hdata]
    rfl
  have hfits (k : UInt32) :
      (c.toFrame target .server k).encode.length + sealOverhead ≤ maxDatagramSize := by
    rw [← hbytes]
    refine reply_fits hheader ?_ target k
    rw [hdata]
    exact Nat.succ_le_succ hshort
  constructor
  · obtain ⟨wire, hwire, hlength⟩ := exists_sent env r n (hfits (r.link n).nextSequence)
    refine ⟨wire, ?_, hlength⟩
    rw [Relay.reply, outbox_deliverNumbered r env n .server _ (hbytes _), hwire]
  · simp only [Relay.reply, deliverNumbered, deliver_snd, hbytes]
    obtain ⟨wire, hwire, -⟩ := exists_sent env ((r.changeLink n (·.advance)).setPacket
      (r.desk.packet.setReplyHeader target (r.link n).nextSequence)) n
      (hfits (r.link n).nextSequence)
    rw [hwire]
    rfl

/-- A command with a short payload is sent, whatever message it is written over. -/
lemma replies_sendCommand (env : Environment) (r : Relay) (n : LinkNo) (target : PeerId)
    (hshort : c.payload.length ≤ maxPingSize) :
    Replies n target c r (r.sendCommand env n target c).1 := by
  obtain ⟨p, hp, hheader, hdata⟩ := r.desk.packet.setCommand_eq c.tag hshort
  have hsent := (replies_reply env (r.setPacket p) n target hheader hdata hshort).1
  simp only [sendCommand, hp]
  exact hsent.after rfl rfl

lemma replies_answer (htag : tag.reply? = some reply) (env : Environment) (r : Relay) (n : LinkNo)
    (source : PeerId) (code : ReplyCode) :
    Replies n source (reply code) r (r.sendCommand env n source (reply code)).1 := by
  refine replies_sendCommand env r n source ?_
  cases tag <;> cases htag <;> exact Nat.le_of_ble_eq_true rfl

/-- The code of an answer is zero if causes are not disclosed. -/
lemma disclosedCode_of_discreet {α : Type} (h : env.settings.disclosesCodes = false)
    (outcome : Except RelayFault α) : disclosedCode env outcome = .noError := by
  cases outcome with
  | ok a => rfl
  | error e => simp [disclosedCode, h]

/-! ## Commands -/

/-- The answer to a join tells what came of it. -/
lemma replies_obeyJoin : Replies n source
    (.joinSessionReply (disclosedCode env
      (r.roster.outcome env now (env.tag r.tagsDrawn) n source .joinSession payload)))
    r (r.obeyJoin env now n source payload).1 := by
  have htag : CommandTag.joinSession.reply? = some .joinSessionReply := rfl
  have hsend (x : Relay) (code : ReplyCode) (houtbox : x.outbox = r.outbox)
      (hlinks : x.links = r.links) :=
    (replies_answer htag env x n source code).after houtbox hlinks
  cases hg : (r.roster.grant env now (env.tag r.tagsDrawn) source payload).2 with
  | error e =>
      have hgranted : (r.grant env now source payload).2 = .error e := hg
      simp only [Roster.outcome, hg, obeyJoin, hgranted]
      exact hsend _ _ rfl rfl
  | ok g =>
      have hgranted : (r.grant env now source payload).2 = .ok g := hg
      have hroster : (r.grant env now source payload).1.roster =
          (r.roster.grant env now (env.tag r.tagsDrawn) source payload).1 := rfl
      simp only [Roster.outcome, hg, obeyJoin, hgranted, hroster]
      generalize (r.roster.grant env now _ source payload).1.bind now.instant n source g = y
      rcases y with ⟨y, bound⟩
      cases bound with
      | error e => exact hsend _ _ rfl rfl
      | ok k => exact (hsend ((r.grant env now source payload).1.setRoster y) _ rfl rfl).before rfl

/-- **A join, a leave and a rotation are answered once**, and the answer tells what came of them as
far as the settings disclose it. -/
theorem replies_obey (env : Environment) (now : Moment) (n : LinkNo)
    (htag : tag.reply? = some reply) (hcalls : r.desk.packet.Calls source tag payload) :
    Replies n source (reply (disclosedCode env
      (r.roster.outcome env now (env.tag r.tagsDrawn) n source tag payload))) r
      (r.obey env now n).1 := by
  obtain ⟨rfl, htarget, hcommand⟩ := hcalls
  have hsend := replies_answer htag env
  simp only [obey, htarget, hcommand, Bool.not_true, Bool.false_eq_true, if_false]
  cases tag with
  | joinSession =>
      cases htag
      exact replies_obeyJoin
  | leaveSession =>
      cases htag
      exact (hsend ..).after rfl rfl
  | rotateCookies =>
      cases htag
      exact (hsend ..).after rfl rfl
  | _ => contradiction

/-- **Where causes are not disclosed, an answer is no oracle.**  Two servers are asked to join,
leave or rotate under the same name, on connections that were sent as much.  Each hands out one
message, on the connection that asked, and it is the same for both: nothing in it depends on their
keys, on their sessions, bans and payments, on what the command carried, or on what lay in the
buffer.  It is sent by both, in datagrams of one size if both connections have keys or neither has
one. -/
theorem answers_agree {env env' : Environment} (hdiscreet : env.settings.disclosesCodes = false)
    (hdiscreet' : env'.settings.disclosesCodes = false) (now now' : Moment) {r q : Relay}
    {n m : LinkNo} (hsent : (r.link n).sent = (q.link m).sent) {source : PeerId} {tag : CommandTag}
    (htag : tag ∈ [.joinSession, .leaveSession, .rotateCookies]) {payload payload' : Bytes}
    (hr : r.desk.packet.Calls source tag payload) (hq : q.desk.packet.Calls source tag payload') :
    ∃ message wire wire',
      (r.obey env now n).1.outbox = r.outbox ++ [⟨n, .server, message, .ok wire⟩] ∧
      (q.obey env' now' m).1.outbox = q.outbox ++ [⟨m, .server, message, .ok wire'⟩] ∧
      ((r.link n).key.isSome = (q.link m).key.isSome → wire.length = wire'.length) := by
  obtain ⟨reply, hreply⟩ : ∃ reply, tag.reply? = some reply := by
    simp only [List.mem_cons, List.not_mem_nil, or_false] at htag
    rcases htag with rfl | rfl | rfl <;> exact ⟨_, rfl⟩
  obtain ⟨wire, houtbox, hlength⟩ := replies_obey env now n hreply hr
  obtain ⟨wire', houtbox', hlength'⟩ := replies_obey env' now' m hreply hq
  have hnumber : (q.link m).nextSequence = (r.link n).nextSequence := by
    rw [Link.nextSequence, ← hsent, Link.nextSequence]
  rw [disclosedCode_of_discreet hdiscreet] at houtbox hlength
  rw [disclosedCode_of_discreet hdiscreet', hnumber] at houtbox' hlength'
  refine ⟨_, wire, wire', houtbox, houtbox', fun hkey => ?_⟩
  rw [hlength, hlength', sentSize, sentSize, hkey]

/-- The first peer shows a rotation cookie. -/
def rotationRequest (cookie : Bytes) : PacketBuffer :=
  ((PacketBuffer.empty.setCommand .rotateCookies cookie).toOption.getD .empty).setSource ⟨1⟩

/-- The first peer shows something that is no cookie. -/
def refusedJoin : Moment × Event :=
  (⟨0, 0⟩, .datagram default (Frame.encode
    ⟨PeerId.server, ⟨1⟩, 1, CommandTag.joinSession.byte :: List.replicate 200 0⟩))

/-- A peer that is an admin moves its session, and one that was never bound fails to: both are told
the same. -/
theorem answers_agree_rotation :
    let r := (start.run Roster.zeroKeyServer [firstJoin]).setPacket
      (rotationRequest (Roster.onesCookie.sealed Roster.zeroKeyServer.cipher default default))
    let q := (start.run Roster.zeroKeyServer [refusedJoin]).setPacket (rotationRequest [])
    (r.obey Roster.zeroKeyServer firstJoin.1 0).2.isOk = true ∧
    (q.obey Roster.zeroKeyServer refusedJoin.1 0).2.isOk = false ∧ ∃ message wire wire',
      (r.obey Roster.zeroKeyServer firstJoin.1 0).1.outbox =
        r.outbox ++ [⟨0, .server, message, .ok wire⟩] ∧
      (q.obey Roster.zeroKeyServer refusedJoin.1 0).1.outbox =
        q.outbox ++ [⟨0, .server, message, .ok wire'⟩] ∧
      ((r.link 0).key.isSome = (q.link 0).key.isSome → wire.length = wire'.length) := by
  intro r q
  have hr : r.desk.packet.Calls ⟨1⟩ .rotateCookies
      (Roster.onesCookie.sealed Roster.zeroKeyServer.cipher default default) :=
    ⟨by decide +kernel, by decide +kernel, by decide +kernel⟩
  have hq : q.desk.packet.Calls ⟨1⟩ .rotateCookies [] :=
    ⟨by decide +kernel, by decide +kernel, by decide +kernel⟩
  exact ⟨by decide +kernel, by decide +kernel,
    answers_agree rfl rfl firstJoin.1 refusedJoin.1 (by decide +kernel) (by decide) hr hq⟩

end Relay

end MeteredRelay
