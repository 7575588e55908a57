import MeteredRelay.Bytes
import MeteredRelay.Bytes.Chunks
import MeteredRelay.Bytes.Hex
import MeteredRelay.Cipher.Aead
import MeteredRelay.Cipher.Blake3
import MeteredRelay.Cipher.ChaCha20
import MeteredRelay.Cipher.Compare
import MeteredRelay.Cipher.Fault
import MeteredRelay.Cipher.Keccak
import MeteredRelay.Cipher.Kem
import MeteredRelay.Cipher.Key
import MeteredRelay.Cipher.MlKem
import MeteredRelay.Cipher.MlKem.Encoding
import MeteredRelay.Cipher.MlKem.Ring
import MeteredRelay.Cipher.Poly1305
import MeteredRelay.Cipher.SessionHasher
import MeteredRelay.Cipher.XChaCha20Poly1305
import MeteredRelay.CommandLine
import MeteredRelay.CommandLine.Page
import MeteredRelay.CommandLine.Request
import MeteredRelay.Config
import MeteredRelay.Config.Check
import MeteredRelay.Config.Entry
import MeteredRelay.Config.Fault
import MeteredRelay.Cookie.Join
import MeteredRelay.Cookie.Rotation
import MeteredRelay.Cookie.Sealed
import MeteredRelay.Files.Fault
import MeteredRelay.Files.Path
import MeteredRelay.Files.Tree
import MeteredRelay.Ledger
import MeteredRelay.Link
import MeteredRelay.Main
import MeteredRelay.Net.Address
import MeteredRelay.Proofs.Accounts
import MeteredRelay.Proofs.Clock
import MeteredRelay.Proofs.Command
import MeteredRelay.Proofs.Cookie
import MeteredRelay.Proofs.Cookie.OpenText
import MeteredRelay.Proofs.Gauge
import MeteredRelay.Proofs.Ledger
import MeteredRelay.Proofs.MemberSet
import MeteredRelay.Proofs.PacketBuffer
import MeteredRelay.Proofs.PacketBuffer.Contents
import MeteredRelay.Proofs.PacketBuffer.Edits
import MeteredRelay.Proofs.Relay.Acts
import MeteredRelay.Proofs.Relay.Admission
import MeteredRelay.Proofs.Relay.Arrival
import MeteredRelay.Proofs.Relay.Blame
import MeteredRelay.Proofs.Relay.Conduct
import MeteredRelay.Proofs.Relay.Desk
import MeteredRelay.Proofs.Relay.Discretion
import MeteredRelay.Proofs.Relay.Greeting
import MeteredRelay.Proofs.Relay.Handling
import MeteredRelay.Proofs.Relay.Handshake
import MeteredRelay.Proofs.Relay.Handshake.Keys
import MeteredRelay.Proofs.Relay.Housed
import MeteredRelay.Proofs.Relay.Keeps
import MeteredRelay.Proofs.Relay.Limit
import MeteredRelay.Proofs.Relay.LinkGauges
import MeteredRelay.Proofs.Relay.Listing
import MeteredRelay.Proofs.Relay.Mirror
import MeteredRelay.Proofs.Relay.Mirror.Commands
import MeteredRelay.Proofs.Relay.Mirror.Refinement
import MeteredRelay.Proofs.Relay.Numbering
import MeteredRelay.Proofs.Relay.Obeying
import MeteredRelay.Proofs.Relay.Orderly
import MeteredRelay.Proofs.Relay.Origins
import MeteredRelay.Proofs.Relay.PassOn
import MeteredRelay.Proofs.Relay.Pings
import MeteredRelay.Proofs.Relay.Processed
import MeteredRelay.Proofs.Relay.Reachable
import MeteredRelay.Proofs.Relay.Reading
import MeteredRelay.Proofs.Relay.Refusal
import MeteredRelay.Proofs.Relay.Rejoin
import MeteredRelay.Proofs.Relay.Replay
import MeteredRelay.Proofs.Relay.Sizes
import MeteredRelay.Proofs.Relay.Steady
import MeteredRelay.Proofs.Relay.Sweep
import MeteredRelay.Proofs.Relay.Turns
import MeteredRelay.Proofs.Roster.Act
import MeteredRelay.Proofs.Roster.Alike
import MeteredRelay.Proofs.Roster.Ban
import MeteredRelay.Proofs.Roster.Bind
import MeteredRelay.Proofs.Roster.Books
import MeteredRelay.Proofs.Roster.Changes
import MeteredRelay.Proofs.Roster.Charge
import MeteredRelay.Proofs.Roster.Connections
import MeteredRelay.Proofs.Roster.Credit
import MeteredRelay.Proofs.Roster.Frame
import MeteredRelay.Proofs.Roster.Gathering
import MeteredRelay.Proofs.Roster.Index
import MeteredRelay.Proofs.Roster.Kick
import MeteredRelay.Proofs.Roster.Lasting
import MeteredRelay.Proofs.Roster.Leaving
import MeteredRelay.Proofs.Roster.Listing
import MeteredRelay.Proofs.Roster.Orderly
import MeteredRelay.Proofs.Roster.PeerGauge
import MeteredRelay.Proofs.Roster.Placement
import MeteredRelay.Proofs.Roster.Purses
import MeteredRelay.Proofs.Roster.Rejoin
import MeteredRelay.Proofs.Roster.Retry
import MeteredRelay.Proofs.Roster.Rights
import MeteredRelay.Proofs.Roster.Search
import MeteredRelay.Proofs.Roster.SessionGauge
import MeteredRelay.Proofs.Roster.SingleUse
import MeteredRelay.Proofs.Roster.Sizes
import MeteredRelay.Proofs.Roster.Sound
import MeteredRelay.Proofs.Roster.Views
import MeteredRelay.Proofs.Session
import MeteredRelay.Proofs.SocketTable
import MeteredRelay.Proofs.Text
import MeteredRelay.Proofs.Till
import MeteredRelay.Proofs.Till.Overdraft
import MeteredRelay.Proofs.Timestamp
import MeteredRelay.Proofs.Window
import MeteredRelay.Proofs.Window.Record
import MeteredRelay.Proofs.Window.Reordering
import MeteredRelay.Purse
import MeteredRelay.Relay.Delivery
import MeteredRelay.Relay.Environment
import MeteredRelay.Relay.Event
import MeteredRelay.Relay.Fault
import MeteredRelay.Relay.Forward
import MeteredRelay.Relay.Obey
import MeteredRelay.Relay.Receive
import MeteredRelay.Relay.Schedule
import MeteredRelay.Relay.Settings
import MeteredRelay.Relay.State
import MeteredRelay.Relay.Upkeep
import MeteredRelay.Roster
import MeteredRelay.Roster.Admission
import MeteredRelay.Roster.Rotation
import MeteredRelay.Session
import MeteredRelay.Session.Binding
import MeteredRelay.Session.MemberSet
import MeteredRelay.Store
import MeteredRelay.Table
import MeteredRelay.Text.Blank
import MeteredRelay.Text.Decimal
import MeteredRelay.Text.Integer
import MeteredRelay.Text.Lines
import MeteredRelay.Text.Reader
import MeteredRelay.Text.Scaled
import MeteredRelay.Text.Span
import MeteredRelay.Time.Moment
import MeteredRelay.Time.Timestamp
import MeteredRelay.Toml.Document
import MeteredRelay.Toml.Printer
import MeteredRelay.Toml.Quoted
import MeteredRelay.Toml.Scalar
import MeteredRelay.Toml.Table
import MeteredRelay.Traffic.Figure
import MeteredRelay.Traffic.Histogram
import MeteredRelay.Traffic.Report
import MeteredRelay.Traffic.SocketTable
import MeteredRelay.Window
import MeteredRelay.Wire.Command
import MeteredRelay.Wire.Fault
import MeteredRelay.Wire.Frame
import MeteredRelay.Wire.PacketBuffer
import MeteredRelay.Wire.PeerId
import MeteredRelay.Wire.ReplyCode
import MeteredRelay.Wire.SessionId
