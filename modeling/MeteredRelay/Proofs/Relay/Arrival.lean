import MeteredRelay.Proofs.Relay.Keeps

/-!
# How connections come and go

A connection is made for an address that has none, when a datagram comes from it or when its
handshake is answered, and an address is taken from its connection when that is dropped.  This file
says once what each of these may do to a relay (`Arrives`, `Greets`, `Drops`), and which way a
datagram goes (`Receives`), so that what is said of all connections or bindings of a relay opens
none of these functions.
-/

namespace MeteredRelay

namespace Relay

variable {r r' : Relay} {env : Environment} {now : Moment} {address : SocketAddress}
  {datagram : Bytes}

/-- The connection of a datagram is found. -/
inductive Arrives (now : Moment) (r : Relay) (address : SocketAddress) :
    Relay → Arrival → Prop where
  /-- The address has a connection. -/
  | known {r' : Relay} {arrival : Arrival} {n : LinkNo} (hn : r.addresses.get? address = some n)
      (hkeeps : Keeps r r') (hfrom : ∀ m, arrival = .message m → m = n) :
      Arrives now r address r' arrival
  /-- A connection was made for the address. -/
  | new {r' : Relay} (hnone : r.addresses.get? address = none)
      (hkeeps : Keeps (r.enroll (.plain address now.instant)).1 r') :
      Arrives now r address r' (.message r.links.size)
  /-- The datagram waits as a handshake, or is dropped. -/
  | waits {r' : Relay} (hkeeps : Keeps r r') : Arrives now r address r' .consumed

/-- A handshake was answered. -/
inductive Greets (r : Relay) : Relay → Prop where
  | answers {r' : Relay} (hkeeps : Keeps r r') : Greets r r'
  /-- A connection was made for an address without one. -/
  | begins {r' : Relay} {l : Link} (hnone : r.addresses.get? l.address = none)
      (hkeeps : Keeps (r.enroll l).1 r') : Greets r r'

/-- A connection was dropped: its address is forgotten, and everybody on it has left. -/
inductive Drops (r : Relay) (address : SocketAddress) : Relay → Prop where
  | none : Drops r address r
  | some {r' : Relay} {n : LinkNo} (hn : r.addresses.get? address = some n)
      (hroster : r'.roster = r.roster.leaveAll n) (hsize : r'.links.size = r.links.size)
      (haddresses : r'.addresses = r.addresses.erase address) : Drops r address r'

/-- A datagram was handled. -/
inductive Receives (env : Environment) (now : Moment) (r : Relay) (address : SocketAddress)
    (datagram : Bytes) : Relay → Prop where
  /-- No message was read from it. -/
  | ends {arrived r' : Relay} {arrival : Arrival}
      (harrive : (r.take datagram).arrive env now address
        ((r.take datagram).desk.raw.take datagram.length) = (arrived, arrival))
      (hkeeps : Keeps arrived r') : Receives env now r address datagram r'
  /-- Its message was read and handled. -/
  | handles {arrived opened : Relay} {n : LinkNo} {size : Nat}
      (harrive : (r.take datagram).arrive env now address
        ((r.take datagram).desk.raw.take datagram.length) = (arrived, .message n))
      (hopen : arrived.openInput env n ((r.take datagram).desk.raw.take datagram.length) =
        (opened, some size)) :
      Receives env now r address datagram
        ((opened.changeLink n (·.noteRead now.instant)).handle env now n size)

/-- A datagram of a pending connection may be held against it, or complete its handshake; either way
the connection is the one of the address. -/
lemma arrives_arrive {input : Bytes} {arrival : Arrival}
    (harrive : r.arrive env now address input = (r', arrival)) :
    Arrives now r address r' arrival := by
  suffices hs : Arrives now r address (r.arrive env now address input).1
      (r.arrive env now address input).2 by
    rwa [harrive] at hs
  simp only [arrive]
  split
  · rename_i n hn
    split
    · exact .known hn (.refl r) fun m hm => (Arrival.message.inj hm).symm
    · split
      · exact .known hn keeps_penalize fun m hm => by cases hm
      · exact .known hn ⟨rfl, Store.size_modify .., rfl⟩ fun m hm => (Arrival.message.inj hm).symm
  · rename_i hnone
    split
    · exact .new hnone ⟨rfl, rfl, rfl⟩
    · split
      · exact .waits (.refl r)
      · refine .waits ?_
        simp only [queueHandshake]
        split <;> exact ⟨rfl, rfl, rfl⟩

lemma greets_greet (env : Environment) (r : Relay) : Greets r (r.greet env) := by
  simp only [greet]
  cases r.handshakes with
  | nil => exact .answers (.refl r)
  | cons first rest =>
      have hrest : Keeps r { r with handshakes := rest } := ⟨rfl, rfl, rfl⟩
      dsimp only
      split
      · exact .answers (hrest.trans keeps_answer)
      · rename_i hnone
        split
        · exact .answers hrest
        · rename_i key _
          refine .begins (l := .opening first.address key (first.data.take MlKem.ciphertextSize)
            first.received) hnone (Keeps.trans ?_ keeps_answer)
          exact ⟨rfl, rfl, rfl⟩

lemma drops_dropLink (r : Relay) (address : SocketAddress) :
    Drops r address (r.dropLink address) := by
  unfold dropLink
  split
  · exact .none
  · rename_i n hn
    dsimp only
    split <;> exact .some hn rfl (Store.size_modify ..) rfl

/-- What a drop keeps, a sweep keeps. -/
lemma sweep_induction {motive : Relay → Prop}
    (hdrop : ∀ r address, motive r → motive (r.dropLink address)) (hr : motive r) :
    motive (r.sweep env now.instant).1 := by
  unfold sweep
  dsimp only
  generalize r.staleAddresses env now.instant = addresses
  induction addresses generalizing r with
  | nil => exact hr
  | cons address addresses ih => exact ih (hdrop r address hr)

/-- Only what opens is handled; a handshake that comes again is echoed instead. -/
lemma receives_receive (env : Environment) (now : Moment) (r : Relay) (address : SocketAddress)
    (datagram : Bytes) :
    Receives env now r address datagram (r.receive env now address datagram) := by
  unfold receive
  dsimp only
  obtain ⟨arrived, arrival, harrive⟩ : ∃ arrived arrival, (r.take datagram).arrive env now address
      ((r.take datagram).desk.raw.take datagram.length) = (arrived, arrival) := ⟨_, _, rfl⟩
  rw [harrive]
  cases arrival with
  | consumed => exact .ends harrive (.refl arrived)
  | repeated n ciphertext => exact .ends harrive (keeps_changeLink.trans keeps_deliver)
  | message n =>
      dsimp only
      obtain ⟨opened, outcome, hopen⟩ : ∃ opened outcome, arrived.openInput env n
          ((r.take datagram).desk.raw.take datagram.length) = (opened, outcome) := ⟨_, _, rfl⟩
      rw [hopen]
      cases outcome with
      | none => exact .ends harrive (keeps_openInput hopen)
      | some size => exact .handles harrive hopen

end Relay

end MeteredRelay
