import MeteredRelay.Proofs.Relay.Handshake

/-!
# What a greeting is answered with

The first datagram from an address stands for a key, which its first bytes encapsulate.  A server
that takes it from the queue makes a pending connection with this key, and is to send the
encapsulation back under the key, so that the client sees that the server has it too.

The two do not go together.  The connection is made for the first bytes of the datagram, whatever
comes behind them, but it is answered only if the whole datagram is what it is pending on.
**`confirms_iff_length_eq`** says that a greeting that makes a connection is confirmed if and only if
the datagram is just as long as an encapsulation; of a longer one the client hears nothing.  Nor does
it help to send it again, for then it completes the handshake (**`phase_receive_of_other`**).
-/

namespace MeteredRelay

/-- What a greeting encapsulates its key in. -/
def Handshake.encapsulation (h : Handshake) : Bytes := h.data.take MlKem.ciphertextSize

namespace Relay

/-- A greeting is confirmed: what is handed out is its encapsulation, sealed under the key in it, to
the connection of its address. -/
def Confirms (env : Environment) (h : Handshake) (r r' : Relay) : Prop :=
  ∃ n key nonce, r'.addresses.get? h.address = some n ∧
    env.decapsulate h.encapsulation = .ok key ∧
    r'.outbox = r.outbox ++ [⟨n, .echo, h.encapsulation,
      .ok (env.cipher.sealed key nonce [] h.encapsulation)⟩]

variable {env : Environment} {r : Relay} {h : Handshake} {rest : List Handshake} {key : Key}
  {n : LinkNo}

/-- A greeting from an unknown address makes a connection only if it stands for a key. -/
lemma exists_key_of_greet (hwaits : r.handshakes = h :: rest) (hnone : r.phase h.address = .absent)
    (hpending : (r.greet env).phase h.address = .pending n) :
    ∃ key, env.decapsulate h.encapsulation = .ok key ∧
      r.greet env = (r.beginLink h rest key).answer env r.links.size h.data := by
  have haddress : r.addresses.get? h.address = none := by
    unfold phase at hnone
    split at hnone
    · assumption
    · split at hnone <;> contradiction
  cases hkey : env.decapsulate (h.data.take MlKem.ciphertextSize) with
  | ok key =>
      refine ⟨key, hkey, ?_⟩
      simp only [greet, hwaits, haddress, hkey]
      rfl
  | error e =>
      have hgreet : r.greet env = { r with handshakes := rest } := by
        simp only [greet, hwaits, haddress, hkey]
      rw [hgreet] at hpending
      have habsent : r.phase h.address = .pending n := hpending
      cases hnone.symm.trans habsent

lemma link_beginLink : (r.beginLink h rest key).link r.links.size = begun h key :=
  (link_enroll ..).trans (if_pos rfl)

/-- The address of a greeting leads to the connection that was made for it. -/
lemma get?_answer : ((r.beginLink h rest key).answer env r.links.size h.data).addresses.get?
    h.address = some r.links.size := by
  rcases exists_answers env (r.beginLink h rest key) r.links.size h.data with ⟨sent, -, hsteady⟩
  rw [hsteady.addresses]
  exact (Table.get?_insert ..).trans (if_pos rfl)

/-- The connection of a greeting is answered with its encapsulation, if the greeting is nothing
more. -/
lemma outbox_answer_of_eq (hsame : h.encapsulation = h.data) :
    ((r.beginLink h rest key).answer env r.links.size h.data).outbox =
      r.outbox ++ [⟨r.links.size, .echo, h.encapsulation,
        .ok (env.cipher.sealed key (env.nonce r.noncesDrawn) [] h.encapsulation)⟩] := by
  have hlength : h.encapsulation.length + sealOverhead ≤ maxDatagramSize := by
    have hle : h.encapsulation.length ≤ MlKem.ciphertextSize := List.length_take_le _ _
    have hroom : MlKem.ciphertextSize + sealOverhead ≤ maxDatagramSize := by decide
    omega
  have hkey : ((r.beginLink h rest key).link r.links.size).key = some key := by
    rw [link_beginLink]
    rfl
  have hpending : ((r.beginLink h rest key).link r.links.size).pending = some h.encapsulation := by
    rw [link_beginLink]
    rfl
  have hsealed : ((r.beginLink h rest key).seal? env r.links.size h.encapsulation).2 =
      .ok (env.cipher.sealed key (env.nonce r.noncesDrawn) [] h.encapsulation) := by
    rw [seal_of_some hkey (hlength.trans (by decide)),
      datagramOf_of_le (by rwa [Aead.length_sealed])]
    rfl
  simp only [answer, hpending, if_pos hsame]
  rw [(still_deliver ..).1.outbox, hsealed]
  rfl

/-- Nothing is handed out to a connection that is pending on something else. -/
lemma outbox_answer_of_ne (hother : h.encapsulation ≠ h.data) :
    ((r.beginLink h rest key).answer env r.links.size h.data).outbox = r.outbox := by
  have hpending : ((r.beginLink h rest key).link r.links.size).pending = some h.encapsulation := by
    rw [link_beginLink]
    rfl
  simp only [answer, hpending, if_neg hother]
  rfl

/-- Any other datagram than the one that a connection is pending on completes its handshake. -/
theorem phase_receive_of_other (hr : r.Labelled) {address : SocketAddress} {ciphertext data : Bytes}
    (hn : r.addresses.get? address = some n) (hpending : (r.link n).pending = some ciphertext)
    (hother : ciphertext ≠ data) (now : Moment) :
    (r.receive env now address data).phase address = .established n := by
  have harrive : r.arrive env now address data = (r.complete n, .message n) := by
    simp only [arrive, hn, hpending, if_neg hother]
  rw [receive_eq harrive, attend, (steady_take.trans steady_read).phase]
  exact phase_complete_self hr hn

/-- **A greeting is confirmed if and only if nothing follows the encapsulation in it.**  Where the
server makes a pending connection for a datagram that waited, which is at least as long as an
encapsulation, it sends the confirmation if the datagram is not longer, and else nothing. -/
theorem confirms_iff_length_eq (env : Environment) (r : Relay) (h : Handshake)
    (rest : List Handshake) (hwaits : r.handshakes = h :: rest)
    (hlong : MlKem.ciphertextSize ≤ h.data.length) (hnone : r.phase h.address = .absent)
    (n : LinkNo) (hpending : (r.greet env).phase h.address = .pending n) :
    (Confirms env h r (r.greet env) ↔ h.data.length = MlKem.ciphertextSize) ∧
      (MlKem.ciphertextSize < h.data.length → (r.greet env).outbox = r.outbox) := by
  obtain ⟨key, hkey, hgreet⟩ := exists_key_of_greet hwaits hnone hpending
  have hsame : h.encapsulation = h.data ↔ h.data.length = MlKem.ciphertextSize := by
    rw [Handshake.encapsulation, List.take_eq_self_iff]
    omega
  have hsilent (hother : h.data.length ≠ MlKem.ciphertextSize) :
      (r.greet env).outbox = r.outbox := by
    rw [hgreet]
    exact outbox_answer_of_ne (mt hsame.mp hother)
  refine ⟨⟨?_, ?_⟩, fun hmore => hsilent (Nat.ne_of_gt hmore)⟩
  · rintro ⟨m, k, nonce, -, -, hout⟩
    by_contra hother
    rw [hsilent hother, List.self_eq_append_right] at hout
    contradiction
  · intro hlength
    refine ⟨r.links.size, key, env.nonce r.noncesDrawn, ?_, hkey, ?_⟩
    · rw [hgreet]
      exact get?_answer
    · rw [hgreet]
      exact outbox_answer_of_eq (hsame.mpr hlength)

/-- A datagram of zeros waits, as long as an encapsulation and so many bytes more. -/
def zerosWait (more : Nat) : Relay :=
  start.run sealingServer
    [(default, .datagram default (List.replicate (MlKem.ciphertextSize + more) 0))]

/-- An encapsulation of zeros is confirmed. -/
theorem confirms_zeros :
    let h : Handshake := ⟨default, List.replicate MlKem.ciphertextSize 0, default⟩
    let r := zerosWait 0
    r.handshakes = [h] ∧ r.phase default = .absent ∧
      (r.greet sealingServer).phase default = .pending 0 ∧
      Confirms sealingServer h r (r.greet sealingServer) := by
  intro h r
  have hwaits : r.handshakes = [h] := by decide +kernel
  have hnone : r.phase default = .absent := by decide +kernel
  have hpending : (r.greet sealingServer).phase default = .pending 0 := by decide +kernel
  have hlength : h.data.length = MlKem.ciphertextSize := List.length_replicate
  have hconfirms := confirms_iff_length_eq sealingServer r h [] hwaits (Nat.le_of_eq hlength.symm)
    hnone 0 hpending
  exact ⟨hwaits, hnone, hpending, hconfirms.1.mpr hlength⟩

/-- With one byte more the connection is made for the same encapsulation, and nothing is sent. -/
theorem longer_greeting_is_not_confirmed :
    let h : Handshake := ⟨default, List.replicate (MlKem.ciphertextSize + 1) 0, default⟩
    let r := zerosWait 1
    sealingServer.settings.encrypted = true ∧ r.handshakes = [h] ∧ r.phase default = .absent ∧
      (r.greet sealingServer).phase default = .pending 0 ∧
      ¬ Confirms sealingServer h r (r.greet sealingServer) := by
  intro h r
  have hout : (r.greet sealingServer).outbox.length = r.outbox.length := by decide +kernel
  refine ⟨rfl, by decide +kernel, by decide +kernel, by decide +kernel, ?_⟩
  rintro ⟨n, key, nonce, -, -, hsent⟩
  rw [hsent, List.length_append] at hout
  exact absurd hout (Nat.succ_ne_self _)

end Relay

end MeteredRelay
