import MeteredRelay.Text.Integer
import MeteredRelay.Text.Lines

/-!
# The system's table of datagram sockets

The system publishes one line a socket, thirteen columns separated by white space: the fifth holds
the bytes waiting to be sent and those waiting to be read, in base sixteen with a colon between
them, the tenth names the socket by its inode, and the thirteenth counts the datagrams that the
system dropped.  Headings and damaged lines name no socket and are passed over.

`SocketTable.lookup` reads the line of one socket.  It depends on the first line that names the
socket and on no other.
-/

namespace MeteredRelay

/-- What the system tells about one socket. -/
structure SocketQueues where
  /-- Bytes waiting to be sent. -/
  transmit : UInt64
  /-- Bytes waiting to be read. -/
  receive : UInt64
  /-- Datagrams dropped by the system. -/
  drops : UInt64
deriving DecidableEq, Inhabited

/-- Why the table tells nothing about a socket. -/
inductive SocketTableFault where
  /-- The fifth column has no colon. -/
  | queuesNotSplit
  /-- The bytes waiting to be sent are no number. -/
  | transmit (fault : Text.IntegerFault)
  /-- The bytes waiting to be read are no number. -/
  | receive (fault : Text.IntegerFault)
  /-- The dropped datagrams are no number. -/
  | drops (fault : Text.IntegerFault)
  /-- No line names the socket. -/
  | missing (inode : UInt64)
deriving DecidableEq

namespace SocketTableFault

/-- The fault in words. -/
def message : SocketTableFault → String
  | queuesNotSplit => "tx:rx column not correctly split"
  | transmit f => s!"tx not a number: {f.message}"
  | receive f => s!"rx not a number: {f.message}"
  | drops f => s!"drops not a number: {f.message}"
  | missing i => s!"could not find stats for target inode {i.toNat}"

end SocketTableFault

namespace SocketTable

/-- The columns of a line. -/
def columnCount : Nat := 13

/-- The columns of a line that has as many as it should. -/
def columns? (line : List Char) : Option (List (List Char)) :=
  if (Text.words line).length = columnCount then some (Text.words line) else none

/-- The socket that a line names. -/
def inode? (line : List Char) : Option UInt64 :=
  (columns? line).bind fun cols => (Text.readUInt64 10 (cols.getD 9 [])).toOption

/-- The figures in the columns of a line. -/
def queuesOf (cols : List (List Char)) : Except SocketTableFault SocketQueues :=
  match Text.cutAt ':' (cols.getD 4 []) with
  | none => .error .queuesNotSplit
  | some (tx, rx) => do
    let transmit ← (Text.readUInt64 16 tx).mapError .transmit
    let receive ← (Text.readUInt64 16 rx).mapError .receive
    let drops ← (Text.readUInt64 10 (cols.getD 12 [])).mapError .drops
    return { transmit, receive, drops }

/-- The figures of a socket, from the lines of the table. -/
def lookupIn (lines : List (List Char)) (inode : UInt64) : Except SocketTableFault SocketQueues :=
  match lines.find? (inode? · == some inode) with
  | some line => queuesOf (Text.words line)
  | none => .error (.missing inode)

/-- The figures of a socket, from the table. -/
def lookup (table : List Char) (inode : UInt64) : Except SocketTableFault SocketQueues :=
  lookupIn (Text.lines table) inode

/-- What is told about a socket where the system publishes no table. -/
def unknownQueues : SocketQueues := ⟨0, 0, 0⟩

/-- A line in front that does not name the socket changes nothing. -/
theorem lookupIn_cons_of_ne {line : List Char} {inode : UInt64} (lines : List (List Char))
    (h : inode? line ≠ some inode) : lookupIn (line :: lines) inode = lookupIn lines inode := by
  simp [lookupIn, beq_false_of_ne h]

end SocketTable

end MeteredRelay
