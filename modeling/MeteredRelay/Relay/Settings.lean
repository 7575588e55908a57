import MeteredRelay.Cipher.Kem
import MeteredRelay.Cookie.Sealed
import MeteredRelay.Net.Address
import MeteredRelay.Relay.Fault

/-!
# Settings of the relay

Where the server listens, which keys it has, how often it looks after its tables and what it allows
its clients.  A private key makes it encrypt; a cookie key makes it ask for cookies.

`Settings.check` finds the first thing in settings that the server cannot run with.
-/

namespace MeteredRelay

/-- Settings of the relay. -/
structure Settings where
  /-- The addresses to listen on. -/
  listen : List SocketAddress := []
  /-- The key of the handshake; without it nothing is encrypted. -/
  privateKey : Option KemPrivateKey := none
  /-- The key of cookies; without it everybody is admitted. -/
  cookieKey : Option Key := none
  /-- Keys of older cookies. -/
  retiredKeys : List Key := []
  /-- How many readers each address has. -/
  readers : Nat := 1
  /-- The silence after which a connection is dropped. -/
  maxPingInterval : Span := Span.seconds 60
  /-- The least time between two pings of a connection. -/
  minPingInterval : Span := Span.seconds 5
  /-- The ban score at which a connection is dropped. -/
  maxBanScore : UInt64 := 50
  /-- How often silent connections are looked for. -/
  timeoutSweepInterval : Span := Span.seconds 10
  /-- How often ended payments are looked for. -/
  paymentSweepInterval : Span := Span.seconds 3600
  /-- How often every session is listed. -/
  listingInterval : Span := Span.seconds 30
  /-- The least time between two listings of a session. -/
  minListingInterval : Span := Span.seconds 5
  /-- How long a rotation cookie is good. -/
  rotationLifetime : Span := Span.seconds 300
  /-- How often traffic is reported. -/
  reportInterval : Span := Span.seconds 10
  /-- Whether replies tell causes. -/
  disclosesCodes : Bool := false
  /-- Whether faults of clients are recorded. -/
  recordsFaults : Bool := false
  /-- Whether sessions are listed only at their intervals. -/
  onlyPeriodicListings : Bool := false
  /-- Whether the system's table of sockets is left alone. -/
  ignoresSocketTable : Bool := false
  /-- The bytes that the system is asked to queue. -/
  socketBufferSize : Nat := 2097152

namespace Settings

instance : Inhabited Settings := ⟨{}⟩

/-- Whether connections are encrypted. -/
def encrypted (s : Settings) : Bool := s.privateKey.isSome

/-- The keys that cookies may be sealed under. -/
def cookieKeys (s : Settings) : Option CookieKeys := s.cookieKey.map (⟨·, s.retiredKeys⟩)

/-- How often the sweep for silent connections runs. -/
def timeoutTick (s : Settings) : Span := min s.maxPingInterval s.timeoutSweepInterval

/-- Settings that tell clients and records why something was refused. -/
def disclosing (s : Settings) : Settings := { s with disclosesCodes := true, recordsFaults := true }

/-- What the server asks of its settings, in order, each with the words for its absence. -/
def demands (s : Settings) : List (Bool × String) :=
  [(!s.listen.isEmpty, "at least one listen address is required"),
    (s.readers != 0, "read_routines must be at least 1"),
    (s.maxBanScore != 0, "max_ban_score must be positive"),
    (s.maxPingInterval != 0, "max_ping_interval must be positive"),
    (s.timeoutSweepInterval != 0, "timeout_sweep_interval must be positive"),
    (s.paymentSweepInterval != 0, "payment_sweep_interval must be positive"),
    (s.listingInterval != 0, "session_listing_interval must be positive"),
    (s.cookieKey.isSome || s.retiredKeys.isEmpty, "decode_cookie_keys require a cookie_key")]

/-- Refuses settings that the server cannot run with, for the first demand that they fail. -/
def check (s : Settings) : Except RelayFault Unit :=
  match s.demands.find? (!·.1) with
  | some (_, text) => .error (.invalidSettings text)
  | none => .ok ()

end Settings

end MeteredRelay
