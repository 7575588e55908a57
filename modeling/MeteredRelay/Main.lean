import MeteredRelay.CommandLine
import MeteredRelay.Relay.Schedule
import Std.Internal.UV.UDP
import Std.Time.DateTime.Timestamp

/-!
# The program

Carries out what `CommandLine.plan` says.  All that is decided is decided there; here files are
read and written, random bytes are drawn, and datagrams go between the sockets and the relay.
-/

namespace MeteredRelay.Program

open CommandLine Std.Net Std.Internal.UV

/-! ## Files and randomness -/

/-- A fault of the system in the library's terms. -/
def faultOf : IO.Error → FileFault
  | .noFileOrDirectory .. => .notFound
  | .permissionDenied .. => .permissionDenied
  | .inappropriateType _ code _ => if code = 20 then .notDirectory else .isDirectory
  | .alreadyExists .. => .inTheWay
  | e => .other (toString e)

/-- The text in a file. -/
def readText (path : String) : IO (Except FileFault String) := do
  try
    let bytes ← IO.FS.readBinFile path
    return (String.fromUTF8? bytes).elim (.error .notText) .ok
  catch e => return .error (faultOf e)

/-- The given files with those that are named besides. -/
def readAll (files : Files) (paths : List String) : IO Files := do
  let read ← paths.mapM fun path => return (path, ← readText path)
  return fun path => (read.lookup path).getD (files path)

/-- Stores a key so that only its owner may touch it. -/
def store (path : String) (k : KemPrivateKey) : IO (Except FileFault Unit) := do
  try
    IO.FS.writeFile path ""
    IO.setAccessRights path ⟨⟨true, true, false⟩, {}, {}⟩
    IO.FS.writeFile path k.fileText
    return .ok ()
  catch e => return .error (faultOf e)

/-- Thirty-two random bytes. -/
def random : IO (Octets 32) := return Octets.ofPrefixed 32 (← IO.getRandomBytes 32).toList

/-- A nonce for each number: random bytes and the number. -/
def nonceAt (seed : Octets 32) (n : Nat) : Nonce :=
  Octets.ofPrefixed 24 (seed.1.take 16 ++ Bytes.ofNatLE 8 n)

/-- A payment for each number, from a random start. -/
def tagAt (seed : Octets 32) (n : Nat) : UInt64 :=
  Bytes.toUInt64 (seed.1.take 8) + UInt64.ofNat n

/-! ## Sockets -/

/-- An address as the system has it. -/
def toSystem (a : MeteredRelay.SocketAddress) : Std.Net.SocketAddress :=
  match a.host with
  | .v4 o => .v4 ⟨⟨o⟩, a.port⟩
  | .v6 g _ => .v6 ⟨⟨g⟩, a.port⟩

/-- An address as the relay has it. -/
def ofSystem : Std.Net.SocketAddress → MeteredRelay.SocketAddress
  | .v4 a => ⟨.v4 a.addr.octets, a.port⟩
  | .v6 a => ⟨.v6 a.addr.segments 0, a.port⟩

/-- What a socket will have received. -/
abbrev Incoming := IO.Promise (Except IO.Error (ByteArray × Option Std.Net.SocketAddress))

/-- A socket and what it receives next. -/
structure Port where
  socket : UDP.Socket
  incoming : Incoming

/-- Waits for the next datagram of a socket. -/
def listenOn (socket : UDP.Socket) : IO Port := return ⟨socket, ← socket.recv 65536⟩

/-- The datagrams that a socket has, with the sockets they came to. -/
partial def receive (p : Port) : IO (Port × List (UDP.Socket × MeteredRelay.SocketAddress × Bytes)) := do
  if !(← IO.hasFinished p.incoming.result?) then return (p, [])
  let received := p.incoming.result?.get
  let (next, later) ← receive (← listenOn p.socket)
  match received with
  | some (.ok (data, some sender)) => return (next, (p.socket, ofSystem sender, data.toList) :: later)
  | _ => return (next, later)

/-- The relay at work: its sockets, and for each client the socket that it was last heard on. -/
structure Work where
  service : Service
  ports : List Port
  routes : Table MeteredRelay.SocketAddress UDP.Socket
  /-- The reading of the clock at the start. -/
  began : Nat

/-- Sends what the relay handed out. -/
def send (w : Work) : IO Work := do
  let relay := w.service.relay
  for p in relay.outbox do
    let client := (relay.link p.link).address
    if let (.ok data, some socket) := (p.outcome, w.routes.get? client) then
      let _ ← socket.send #[⟨data.toArray⟩] (some (toSystem client))
  return { w with service := { w.service with relay := { relay with outbox := [] } } }

/-- Lets the relay work until the program is stopped. -/
partial def work (w : Work) : IO Unit := do
  let taken ← w.ports.mapM receive
  let datagrams := taken.flatMap (·.2)
  let routes := datagrams.foldl (fun t (socket, client, _) => t.insert client socket) w.routes
  let elapsed := ((← IO.monoNanosNow) - w.began) / 1000000
  let service := w.service.advance (elapsed - w.service.elapsed)
  let w ← send { w with
    service := service.receiveAll (datagrams.map fun d => (d.2.1, d.2.2))
    ports := taken.map (·.1), routes }
  if datagrams.isEmpty then IO.sleep 1
  work w

/-- Listens on the addresses of the settings and lets the relay work. -/
def serve (s : Settings) : IO (Except FileFault Unit) := do
  let ports : Except FileFault (List Port) ← try
      pure (.ok (← s.listen.mapM fun a => do
        let socket ← UDP.Socket.new
        socket.bind (toSystem a)
        listenOn socket))
    catch e => pure (.error (faultOf e))
  match ports with
  | .error f => return .error f
  | .ok ports =>
    let (hasherKey, nonceSeed, tagSeed) := (← random, ← random, ← random)
    let env := Environment.standard s ⟨hasherKey⟩ (nonceAt nonceSeed) (tagAt tagSeed)
    let wall := (← Std.Time.Timestamp.now).toNanosecondsSinceUnixEpoch.val
    let service := Service.start env ⟨0, wall⟩
    work ⟨service, ports, .empty, ← IO.monoNanosNow⟩
    return .ok ()

/-! ## Plans -/

/-- Tells a fault, and ends the program with status one. -/
def fail (causes : List String) : IO UInt32 := do
  IO.eprint (faultText causes)
  return 1

/-- Makes a key pair and stores it. -/
def storeNewKey (path : String) : IO UInt32 := do
  IO.print generatingText
  let key := KemPrivateKey.generate (← random) (← random)
  try
    if let .ok (some outer) := (Path.ofText path).map Path.outer? then
      IO.FS.createDirAll outer.text
    match ← store path key with
    | .ok () =>
      IO.print (storedText path key.toPublic)
      return 0
    | .error f => fail (storeFault path f)
  catch e => fail [(faultOf e).message]

/-- Does what is planned. -/
def carryOut : Plan → IO UInt32
  | .say text => do
    IO.print text
    return 0
  | .refuse => do
    IO.eprint refusalText
    return 2
  | .fail causes => fail causes
  | .sayCookieKey => do
    IO.print (cookieKeyText ⟨← random⟩)
    return 0
  | .storeKey path => storeNewKey path
  | .serve s => do
    match ← serve s with
    | .ok () => return 0
    | .error f => fail (startFault (.system f.message))

/-- Reads the files that the arguments name, and does what they ask for. -/
def run (arguments : List String) : IO UInt32 := do
  let files ← readAll (fun _ => .error .notFound) (filesOf (fun _ => .error .notFound) arguments)
  let files ← readAll files (filesOf files arguments)
  carryOut (plan files arguments)

end MeteredRelay.Program

/-- The program. -/
def main (arguments : List String) : IO UInt32 := MeteredRelay.Program.run arguments
