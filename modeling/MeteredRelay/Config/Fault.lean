import MeteredRelay.Relay.Fault

/-!
# Faults of a configuration

What can keep a configuration from being used.  A fault is told as a chain of causes: what was
attempted comes first, and what was wrong with it last.
-/

namespace MeteredRelay

/-- What can keep a configuration from being used. -/
inductive ConfigFault where
  /-- The file could not be read. -/
  | unreadable (path : String) (fault : FileFault)
  /-- The file is no configuration. -/
  | unparsable (path : String)
  | noListenAddress
  /-- A text that is no address. -/
  | listenAddress (text : String)
  | readers
  | maxPing
  /-- A word that is no level of records. -/
  | level (word : String)
  | cookieKey (fault : CipherFault)
  | retiredKey (fault : CipherFault)
  | privateKey (path : String) (fault : CipherFault)
deriving DecidableEq

/-- A fault of a key and what lies behind it. -/
def CipherFault.causes (f : CipherFault) : List String :=
  match f with
  | .keyFile g => [f.message, g.message]
  | _ => [f.message]

/-- A fault of the relay and what lies behind it. -/
def RelayFault.causes (f : RelayFault) : List String :=
  match f with
  | .system text => [f.message, text]
  | .cipher g => f.message :: g.causes
  | .frame g => [f.message, g.message]
  | _ => [f.message]

namespace ConfigFault

/-- The weights of records, the least first. -/
def levels : List String := ["trace", "debug", "info", "warn", "error"]

/-- The fault in words, from what was attempted to what was wrong. -/
def causes : ConfigFault → List String
  | unreadable path f => [s!"reading {path}", f.message]
  | unparsable path => [s!"parsing {path}", "invalid TOML"]
  | noListenAddress => ["At least one listen address is required"]
  | listenAddress t => [s!"invalid listen address '{t}'", "invalid socket address syntax"]
  | readers => ["read_routines must be between 1 and 256"]
  | maxPing => ["max_ping_interval_secs must be positive"]
  | level w => [s!"Invalid log level: {w}. Must be one of: " ++ ", ".intercalate levels]
  | cookieKey f => "invalid cookie_key" :: f.causes
  | retiredKey f => "invalid entry in decode_cookie_keys" :: f.causes
  | privateKey path f => s!"loading private key {path}" :: f.causes

/-- There is always something to say. -/
theorem causes_ne_nil (f : ConfigFault) : f.causes ≠ [] := by cases f <;> simp [causes]

end ConfigFault

end MeteredRelay
