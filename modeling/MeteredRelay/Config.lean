import MeteredRelay.Config.Entry
import MeteredRelay.Toml.Printer

/-!
# The configuration file

The configuration file has a section for the server, one for its keys and one for what it records.
Times are in seconds, keys in hexadecimal digits, and addresses in their usual form; none of that
is looked at when the file is read.

* **`Config.parse?`** is the configuration that a text writes; what it leaves out keeps its default.
* **`Config.render`** writes a configuration out in full.
-/

namespace MeteredRelay

namespace Config

/-- How the server works. -/
structure Server where
  /-- The addresses to listen on. -/
  listen : List String := ["0.0.0.0:7010"]
  /-- How many readers each address has. -/
  readers : Nat := 1
  /-- The silence after which a connection is dropped. -/
  maxPing : Nat := 60
  /-- The least time between two pings of a connection. -/
  minPing : Nat := 5
  /-- The ban score at which a connection is dropped. -/
  maxBanScore : Nat := 50
  /-- How often silent connections are looked for. -/
  timeoutSweep : Nat := 10
  /-- How often ended payments are looked for. -/
  paymentSweep : Nat := 3600
  /-- How often every session is listed. -/
  listing : Nat := 30
  /-- The least time between two listings of a session. -/
  minListing : Nat := 5
  /-- How long a rotation cookie is good. -/
  rotation : Nat := 300
  /-- How often traffic is reported; zero is never. -/
  report : Nat := 10
  /-- Whether replies tell causes. -/
  disclosesCodes : Bool := false
  /-- Whether faults of clients are recorded. -/
  recordsFaults : Bool := false
  /-- Whether sessions are listed only at their intervals. -/
  onlyPeriodicListings : Bool := false
  /-- Whether the system's table of sockets is left alone. -/
  ignoresSocketTable : Bool := false
  /-- The bytes that the system is asked to queue. -/
  socketBufferSize : Nat := 2097152

/-- The server's keys. -/
structure Keys where
  /-- The file with the key of the handshake; without it nothing is encrypted. -/
  privateKeyFile : Option String := none
  /-- The key of cookies; without it everybody is admitted. -/
  cookieKey : Option String := none
  /-- Keys of older cookies. -/
  retiredKeys : List String := []

/-- What the server records. -/
structure Logging where
  /-- The least weight of what is recorded. -/
  level : String := "info"

/-- The entries of the section for the server, in the order in which they are written. -/
def Server.entries : List (Entry Server) :=
  [.texts "listen" (·.listen) fun s v => { s with listen := v },
    .natural "read_routines" (·.readers) fun s v => { s with readers := v },
    .natural "max_ping_interval_secs" (·.maxPing) fun s v => { s with maxPing := v },
    .natural "min_ping_interval_secs" (·.minPing) fun s v => { s with minPing := v },
    .natural "max_ban_score" (·.maxBanScore) fun s v => { s with maxBanScore := v },
    .natural "timeout_sweep_interval_secs" (·.timeoutSweep) fun s v => { s with timeoutSweep := v },
    .natural "payment_sweep_interval_secs" (·.paymentSweep) fun s v => { s with paymentSweep := v },
    .natural "session_listing_interval_secs" (·.listing) fun s v => { s with listing := v },
    .natural "min_session_listing_interval_secs" (·.minListing) fun s v => { s with minListing := v },
    .natural "rotate_cookie_lifetime_secs" (·.rotation) fun s v => { s with rotation := v },
    .natural "stats_report_interval_secs" (·.report) fun s v => { s with report := v },
    .flag "reply_error_codes" (·.disclosesCodes) fun s v => { s with disclosesCodes := v },
    .flag "log_read_loop_errors" (·.recordsFaults) fun s v => { s with recordsFaults := v },
    .flag "disable_force_listing" (·.onlyPeriodicListings) fun s v =>
      { s with onlyPeriodicListings := v },
    .flag "ignore_kernel_stats" (·.ignoresSocketTable) fun s v => { s with ignoresSocketTable := v },
    .natural "socket_buffer_size" (·.socketBufferSize) fun s v => { s with socketBufferSize := v }]

/-- The entries of the section for the keys. -/
def Keys.entries : List (Entry Keys) :=
  [.optionalText "private_key_file" (·.privateKeyFile) fun s v => { s with privateKeyFile := some v },
    .optionalText "cookie_key" (·.cookieKey) fun s v => { s with cookieKey := some v },
    .texts "decode_cookie_keys" (·.retiredKeys) fun s v => { s with retiredKeys := v }]

/-- The entries of the section for records. -/
def Logging.entries : List (Entry Logging) :=
  [.text "level" (·.level) fun s v => { s with level := v }]

end Config

/-- What a configuration file says. -/
structure Config where
  server : Config.Server := {}
  keys : Config.Keys := {}
  logging : Config.Logging := {}

namespace Config

instance : Inhabited Config := ⟨{}⟩

/-- A section, which keeps its defaults if the document does not have it. -/
def readSection (t : Toml.Table) (name : String) (entries : List (Entry σ)) (s : σ) : Option σ :=
  match t.lookup name with
  | some v => Entry.readAll entries v s
  | none => some s

/-- The configuration that a document writes. -/
def ofTable? (t : Toml.Table) : Option Config := do
  return ⟨← readSection t "server" Server.entries {}, ← readSection t "keys" Keys.entries {},
    ← readSection t "logging" Logging.entries {}⟩

/-- The configuration that a text writes. -/
def parse? (s : String) : Option Config := do ofTable? (← Toml.parse? s)

/-- The sections in order, with all that is set. -/
def sections (c : Config) : List (String × Toml.Table) :=
  [("server", Entry.writeAll Server.entries c.server), ("keys", Entry.writeAll Keys.entries c.keys),
    ("logging", Entry.writeAll Logging.entries c.logging)]

/-- The text of a configuration. -/
def render (c : Config) : String :=
  "\n".intercalate (c.sections.map fun (name, t) => Toml.renderSection name t)

end Config

end MeteredRelay
