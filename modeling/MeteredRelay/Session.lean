import MeteredRelay.Session.Binding
import MeteredRelay.Session.MemberSet
import MeteredRelay.Time.Moment
import MeteredRelay.Wire.Frame
import MeteredRelay.Wire.SessionId

/-!
# Sessions

A session is a list of bindings that relay to one another, in the order in which their peers came.
Beside it stands the set of their peers with its bitmap, which listings show, and the bans: each
keeps a peer out until an instant.  The bitmap is written anew when a peer comes or goes, not when a
listing is sent; its bytes are worked out when the first listing shows it.  A session is closed for
ever when its last peer has left, and nobody is bound to it again.
-/

namespace MeteredRelay

/-- A peer and the connection through which it is reached. -/
structure Destination where
  peer : PeerId
  link : LinkNo
deriving DecidableEq, Inhabited

/-- What a membership listing says, and to whom it goes. -/
structure Listing where
  destinations : List Destination
  /-- The peers of the session as a compressed bitmap. -/
  bitmap : Bytes
deriving DecidableEq

/-- Bindings that relay to one another. -/
structure Session where
  /-- The present id. -/
  id : SessionId
  /-- The bindings in the order in which their peers came. -/
  bindings : List Binding
  /-- The peers of the bindings. -/
  members : MemberSet
  /-- The bitmap of the members as it was last written, empty if it was larger than a message. -/
  written : Thunk Bytes
  /-- The last instant of each ban. -/
  bans : Table PeerId Instant
  /-- When the session was last listed. -/
  lastListing : Option Instant
  /-- Whether the last peer has left. -/
  closed : Bool

namespace Session

/-- A session that nobody was bound to yet. -/
def start (id : SessionId) : Session := ⟨id, [], .empty, .pure [], .empty, none, false⟩

instance : Inhabited Session := ⟨start .zero⟩

/-- The binding of a peer. -/
def find? (s : Session) (p : PeerId) : Option Binding := s.bindings.find? (·.peer == p)

/-- Whether nobody is bound. -/
def isEmpty (s : Session) : Bool := s.bindings.isEmpty

/-- Where messages of the session go, the sender's own included. -/
def destinations (s : Session) : List Destination := s.bindings.map fun b => ⟨b.peer, b.link⟩

/-- The session with the bitmap of its members written anew. -/
def writeMembers (s : Session) : Session :=
  { s with
    written := ⟨fun _ => if s.members.byteSize ≤ maxMessageSize then s.members.bitmap else []⟩ }

/-- The session with a binding of a peer that comes new. -/
def welcome (s : Session) (b : Binding) : Session :=
  writeMembers { s with bindings := s.bindings.concat b, members := s.members.insert b.peer }

/-- The session with a binding in the place of the one that its peer had. -/
def replace (s : Session) (b : Binding) : Session :=
  writeMembers
    { s with
      bindings := s.bindings.map fun a => if a.peer = b.peer then b else a
      members := s.members.insert b.peer }

/-- The session with a peer noted as a member. -/
def noteMember (s : Session) (p : PeerId) : Session :=
  writeMembers { s with members := s.members.insert p }

/-- The session without a peer, closed if that was the last. -/
def remove (s : Session) (p : PeerId) : Session :=
  let bindings := s.bindings.filter (·.peer ≠ p)
  writeMembers
    { s with bindings, members := s.members.erase p, closed := s.closed || bindings.isEmpty }

/-- The session with a peer kept out until an instant. -/
def ban (s : Session) (p : PeerId) (last : Instant) : Session :=
  { s with bans := s.bans.insert p last }

/-- Whether a peer is kept out. -/
def isBanned (s : Session) (p : PeerId) (now : Instant) : Bool :=
  match s.bans.get? p with
  | some last => now ≤ last
  | none => false

/-- The session without the ban of a peer, if that has ended. -/
def liftBan (s : Session) (p : PeerId) (now : Instant) : Session :=
  if s.isBanned p now then s else { s with bans := s.bans.erase p }

/-- Whether the last listing is at least `spacing` ago. -/
def isListingDue (s : Session) (now : Instant) (spacing : Span) : Bool :=
  match s.lastListing with
  | some last => spacing ≤ now.since last
  | none => true

/-- The bitmap of the members, if one was written. -/
def bitmap? (s : Session) : Option Bytes :=
  if s.written.get.isEmpty then none else some s.written.get

/-- The session listed at `now`, if a listing is due then. -/
def markListed (s : Session) (now : Instant) (spacing : Span) : Session :=
  if s.isListingDue now spacing then { s with lastListing := some now } else s

/-- The listing that is due at `now`, if one is. -/
def listing? (s : Session) (now : Instant) (spacing : Span) : Option Listing :=
  if s.isListingDue now spacing then s.bitmap?.map fun b => ⟨s.destinations, b⟩ else none

/-- The id, how many peers are bound and whether the session is closed. -/
def inspect (s : Session) : String :=
  s!"Session \x7b sid: {s.id.inspect}, peers: {s.bindings.length}, closed: {s.closed} \x7d"

/-- What is shown of a session that is being changed. -/
def inspectBusy : String := "Session \x7b state: \"<locked>\" \x7d"

@[simp] theorem bindings_writeMembers (s : Session) : s.writeMembers.bindings = s.bindings := rfl

@[simp] theorem members_writeMembers (s : Session) : s.writeMembers.members = s.members := rfl

@[simp] theorem closed_writeMembers (s : Session) : s.writeMembers.closed = s.closed := rfl

@[simp] theorem mem_bindings_welcome {s : Session} {a b : Binding} :
    b ∈ (s.welcome a).bindings ↔ b ∈ s.bindings ∨ b = a := by
  simp [welcome]

@[simp] theorem mem_bindings_remove {s : Session} {p : PeerId} {b : Binding} :
    b ∈ (s.remove p).bindings ↔ b ∈ s.bindings ∧ b.peer ≠ p := by
  simp [remove]

/-- A session without peers is closed once its last peer was removed. -/
theorem closed_remove_of_isEmpty {s : Session} {p : PeerId} (h : (s.remove p).isEmpty = true) :
    (s.remove p).closed = true := by
  simp only [remove, isEmpty, bindings_writeMembers, closed_writeMembers] at h ⊢
  rw [h, Bool.or_true]

end Session

end MeteredRelay
