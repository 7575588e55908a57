import MeteredRelay.Cipher.Kem
import MeteredRelay.Config
import MeteredRelay.Config.Fault
import MeteredRelay.Relay.Settings

/-!
# Using a configuration

A configuration is checked before anything is done with it (**`Config.check`**), and turned into the
settings of the relay when that is to run (**`Config.toSettings`**), which also reads the key file.
The first fault that is met decides, in an order of its own in each case.
-/

namespace MeteredRelay

/-- What the files of a machine hold. -/
abbrev Files := String → Except FileFault String

namespace Config

/-- The configuration in a file. -/
def load (files : Files) (path : String) : Except ConfigFault Config :=
  match files path with
  | .error f => .error (.unreadable path f)
  | .ok text => (parse? text).elim (.error (.unparsable path)) .ok

/-- The addresses to listen on. -/
def listenAddresses (c : Config) : Except ConfigFault (List SocketAddress) :=
  c.server.listen.mapM fun t => (SocketAddress.ofText? t).elim (.error (.listenAddress t)) .ok

/-- The key of cookies. -/
def parsedCookieKey (c : Config) : Except ConfigFault (Option Key) :=
  c.keys.cookieKey.mapM fun t => (Key.ofHex t).mapError .cookieKey

/-- The keys of older cookies. -/
def parsedRetiredKeys (c : Config) : Except ConfigFault (List Key) :=
  c.keys.retiredKeys.mapM fun t => (Key.ofHex t).mapError .retiredKey

/-- Refuses a configuration, for the first thing that is wrong with it. -/
def check (c : Config) : Except ConfigFault Unit := do
  if c.server.listen.isEmpty then throw .noListenAddress
  let _ ← c.listenAddresses
  if c.server.readers = 0 ∨ 256 < c.server.readers then throw .readers
  if c.server.maxPing = 0 then throw .maxPing
  if !ConfigFault.levels.contains c.logging.level.toLower then throw (.level c.logging.level)
  let _ ← c.parsedCookieKey
  let _ ← c.parsedRetiredKeys

/-- The key of the handshake, if a file for it is named. -/
def loadPrivateKey (files : Files) (c : Config) : Except ConfigFault (Option KemPrivateKey) :=
  c.keys.privateKeyFile.mapM fun path =>
    (KemPrivateKey.ofFile (files path)).mapError (.privateKey path)

/-- The settings that a configuration stands for. -/
def toSettings (files : Files) (c : Config) : Except ConfigFault Settings := do
  let privateKey ← c.loadPrivateKey files
  let cookieKey ← c.parsedCookieKey
  let retiredKeys ← c.parsedRetiredKeys
  let s := c.server
  return {
    listen := ← c.listenAddresses
    privateKey, cookieKey, retiredKeys
    readers := s.readers
    maxPingInterval := Span.seconds s.maxPing
    minPingInterval := Span.seconds s.minPing
    maxBanScore := UInt64.ofNat s.maxBanScore
    timeoutSweepInterval := Span.seconds s.timeoutSweep
    paymentSweepInterval := Span.seconds s.paymentSweep
    listingInterval := Span.seconds s.listing
    minListingInterval := Span.seconds s.minListing
    rotationLifetime := Span.seconds s.rotation
    reportInterval := Span.seconds s.report
    disclosesCodes := s.disclosesCodes
    recordsFaults := s.recordsFaults
    onlyPeriodicListings := s.onlyPeriodicListings
    ignoresSocketTable := s.ignoresSocketTable
    socketBufferSize := s.socketBufferSize }

end Config

end MeteredRelay
