import MeteredRelay.Proofs.Relay.Turns

/-!
# How far a datagram gets

A datagram may end early in many places: it may be a handshake, wait as one or come again, and it
may not open.  If it opens, the message in it is handled.  `Reads` lists these ways, each with the
exact state after it, and **`reads_receive`** says that there is no other.

The message that is handled is the one that the datagram brings (`brings_of_arrive`).  To the roster
it is the acts that a command asks for, or one charge to the purse of the binding that it is passed
on for (**`settles_receive`**).
-/

namespace MeteredRelay

namespace Relay

variable {env : Environment} {now : Moment} {r r' x opened : Relay} {n sender : LinkNo}
  {address : SocketAddress} {datagram : Bytes} {size : Nat}

/-- How far a datagram gets. -/
inductive Reads (env : Environment) (now : Moment) (r : Relay) (address : SocketAddress)
    (datagram : Bytes) : Relay → Prop where
  /-- It waits as a handshake or is dropped. -/
  | consumed {x : Relay} (harrive : r.arrive env now address datagram = (x, .consumed)) :
      Reads env now r address datagram (x.take datagram)
  /-- It is a handshake that came again and is answered. -/
  | repeated {n : LinkNo}
      (harrive : r.arrive env now address datagram = (r.penalize n, .repeated n datagram)) :
      Reads env now r address datagram
        ((((r.penalize n).take datagram).changeLink n (·.noteRead now.instant)).deliver env n .echo
          datagram).1
  /-- It does not open. -/
  | unopened {x r' : Relay} {n : LinkNo}
      (harrive : r.arrive env now address datagram = (x, .message n))
      (hopen : (x.take datagram).openInput env n datagram = (r', none)) :
      Reads env now r address datagram r'
  /-- The message in it is handled. -/
  | handled {x opened : Relay} {n : LinkNo} {size : Nat}
      (harrive : r.arrive env now address datagram = (x, .message n))
      (hopen : (x.take datagram).openInput env n datagram = (opened, some size)) :
      Reads env now r address datagram
        ((opened.changeLink n (·.noteRead now.instant)).handle env now n size)

/-- **Every datagram ends in one of these ways.** -/
theorem reads_receive (env : Environment) (now : Moment) (r : Relay) (address : SocketAddress)
    (datagram : Bytes) : Reads env now r address datagram (r.receive env now address datagram) := by
  obtain ⟨x, arrival, harrive⟩ : ∃ x arrival, r.arrive env now address datagram = (x, arrival) :=
    ⟨_, _, rfl⟩
  rw [receive_eq harrive]
  cases arrival with
  | consumed => exact .consumed harrive
  | repeated n ciphertext =>
      cases finds_arrive harrive with
      | repeated => exact .repeated harrive
  | message n =>
      show Reads env now r address datagram ((x.take datagram).read env now n datagram)
      unfold read
      split <;> rename_i hopen
      · exact .unopened harrive hopen
      · exact .handled harrive hopen

/-- The message that is handled is the one that the datagram brings. -/
lemma brings_of_arrive (harrive : r.arrive env now address datagram = (x, .message n))
    (hopen : (x.take datagram).openInput env n datagram = (opened, some size)) :
    Brings env now r (.datagram address datagram) n opened.desk.packet := by
  have hinput : (r.take datagram).desk.raw.take datagram.length = datagram := List.take_left
  have harrived : (r.take datagram).arrive env now address
      ((r.take datagram).desk.raw.take datagram.length) = (x.take datagram, .message n) := by
    rw [hinput, arrive_take, harrive]
  have hopened : (x.take datagram).openInput env n ((r.take datagram).desk.raw.take datagram.length) =
      (opened, some size) := by
    rw [hinput, hopen]
  exact .intro harrived hopened

/-! ## The roster -/

/-- Until the message in a datagram is handled, the roster stays. -/
lemma roster_opened {size : Option Nat}
    (harrive : r.arrive env now address datagram = (x, .message n))
    (hopen : (x.take datagram).openInput env n datagram = (opened, size)) :
    opened.roster = r.roster := by
  have hfound := roster_arrive harrive
  exact (keeps_openInput hopen).roster.trans hfound

/-- What a message from a connection does to the roster. -/
inductive Settles (env : Environment) (now : Moment) (sender : LinkNo) (p : PacketBuffer)
    (q : Roster) : Roster → Prop where
  | idle : Settles env now sender p q q
  | obeyed {q' : Roster} (hcommand : p.source ≠ p.target)
      (hacts : Roster.Performs env now (Bids env now sender p) q q') :
      Settles env now sender p q q'
  | charged {b : Binding} {amount : Int64} (hb : q.binding? sender p.source = some b) :
      Settles env now sender p q (q.charge b.purse amount).1

lemma settles_handle (env : Environment) (now : Moment) (r : Relay) (sender : LinkNo)
    (size : Nat) :
    Settles env now sender r.desk.packet r.roster (r.handle env now sender size).roster := by
  have hhandles := handles_handle env now r sender size
  generalize r.handle env now sender size = r' at hhandles ⊢
  cases hhandles with
  | headless | skipped => exact .idle
  | accepted _ _ hprocesses =>
      rename_i window _ _
      have hobey := (performs_obey env now sender (r.note sender window)).roster
      cases hprocesses with
      | obeyed hcommand heq =>
          rw [heq] at hobey
          exact .obeyed hcommand hobey
      | disobeyed hcommand heq =>
          rw [heq] at hobey
          exact .obeyed hcommand hobey
      | unbound => exact .idle
      | forwarded _ hb =>
          rw [keeps_forward.roster]
          exact .charged hb

/-- **To the roster, a datagram is nothing or the message that it brings.** -/
theorem settles_receive (env : Environment) (now : Moment) (r : Relay) (address : SocketAddress)
    (datagram : Bytes) : (r.receive env now address datagram).roster = r.roster ∨
      ∃ n p, Brings env now r (.datagram address datagram) n p ∧
        Settles env now n p r.roster (r.receive env now address datagram).roster := by
  have hreads := reads_receive env now r address datagram
  generalize r.receive env now address datagram = r' at hreads ⊢
  cases hreads with
  | consumed harrive =>
      have hroster := roster_arrive harrive
      exact .inl hroster
  | repeated => exact .inl keeps_deliver.roster
  | unopened harrive hopen => exact .inl (roster_opened harrive hopen)
  | handled harrive hopen =>
      rename_i x opened n size
      refine .inr ⟨n, _, brings_of_arrive harrive hopen, ?_⟩
      rw [← roster_opened harrive hopen]
      exact settles_handle env now (opened.changeLink n (·.noteRead now.instant)) n size

end Relay

end MeteredRelay
