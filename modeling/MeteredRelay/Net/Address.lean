import MeteredRelay.Bytes.Hex
import MeteredRelay.Text.Reader

/-!
# Socket addresses

A client is known by the address its datagrams come from, and the server listens on addresses.  An
address is a host and a port; a host is four octets or eight groups of sixteen bits.

The text of a host of groups leaves out the longest run of zero groups, the first of several, if it
is longer than one group, and shows the octets of a host that only wraps one of the other kind.
Reading accepts more than is written: zeros in front of groups and ports, any run of zeros left
out, and octets in place of the last two groups.  Octets have no zeros in front.
-/

namespace MeteredRelay

/-- A host. -/
inductive Host where
  /-- Four octets. -/
  | v4 (octets : Vector UInt8 4)
  /-- Eight groups, and the number of the network they are meant in. -/
  | v6 (groups : Vector UInt16 8) (scope : UInt32)
deriving DecidableEq

/-- A host and a port. -/
structure SocketAddress where
  host : Host
  port : UInt16
deriving DecidableEq

namespace SocketAddress

open Text

/-! ## Reading -/

/-- Whether a character is a digit of the given base. -/
def isDigit (base : Nat) (c : Char) : Bool := ((hexDigit? c).filter (· < base)).isSome

/-- The number that digits write. -/
def valueOf (base : Nat) (ds : List Char) : Nat :=
  ds.foldl (fun n c => base * n + (hexDigit? c).getD 0) 0

/-- Reads all digits that follow, which must write a number below `bound`. -/
def readNumber (base bound : Nat) (accept : List Char → Bool) : Reader Nat := fun cs =>
  let ds := cs.takeWhile (isDigit base)
  if ds.isEmpty || !accept ds || bound ≤ valueOf base ds then none
  else some (valueOf base ds, cs.dropWhile (isDigit base))

/-- Reads an octet: at most three digits and no zero in front. -/
def readOctet : Reader UInt8 := fun cs => do
  let (n, r) ← readNumber 10 256 (fun ds => ds.length ≤ 3 && (ds.length == 1 || ds.head? != some '0')) cs
  return (UInt8.ofNat n, r)

/-- Reads a group: at most four digits. -/
def readGroup : Reader UInt16 := fun cs => do
  let (n, r) ← readNumber 16 65536 (fun ds => ds.length ≤ 4) cs
  return (UInt16.ofNat n, r)

/-- Reads four octets with points between them. -/
def readOctets : Reader (Vector UInt8 4) := fun cs => do
  let (a, cs) ← readOctet cs
  let (_, cs) ← Reader.char '.' cs
  let (b, cs) ← readOctet cs
  let (_, cs) ← Reader.char '.' cs
  let (c, cs) ← readOctet cs
  let (_, cs) ← Reader.char '.' cs
  let (d, cs) ← readOctet cs
  return (#v[a, b, c, d], cs)

/-- The group that two octets make up. -/
def groupOf (high low : UInt8) : UInt16 := UInt16.ofNat (256 * high.toNat + low.toNat)

/-- The two groups that four octets make up. -/
def groupsOf (o : Vector UInt8 4) : List UInt16 := [groupOf o[0] o[1], groupOf o[2] o[3]]

/-- Reads at most `limit` groups with colons between them, and tells whether octets stood in place
of the last two.  `first` says that no colon is due in front. -/
def readGroups (first : Bool) : (limit : Nat) → List Char → List UInt16 × Bool × List Char
  | 0, cs => ([], false, cs)
  | limit + 1, cs =>
    let body := if first then some cs else (Reader.char ':' cs).map (·.2)
    match (if limit = 0 then none else body.bind readOctets) with
    | some (o, r) => (groupsOf o, true, r)
    | none =>
      match body.bind readGroup with
      | none => ([], false, cs)
      | some (g, r) =>
        let (gs, octets, rest) := readGroups false limit r
        (g :: gs, octets, rest)

/-- Groups of which those in the middle may have been left out. -/
def withZeros (front back : List UInt16) : Vector UInt16 8 :=
  let all := front ++ (List.replicate (8 - front.length - back.length) 0 ++ back)
  Vector.ofFn fun i => all.getD i 0

/-- Reads eight groups. -/
def readHostGroups : Reader (Vector UInt16 8) := fun cs =>
  let (front, octets, r) := readGroups true 8 cs
  if front.length = 8 then some (withZeros front [], r)
  else if octets then none
  else do
    let (_, r) ← Reader.char ':' r
    let (_, r) ← Reader.char ':' r
    let (back, _, r) := readGroups true (7 - front.length) r
    return (withZeros front back, r)

/-- Reads a colon and a port. -/
def readPort : Reader UInt16 := fun cs => do
  let (_, cs) ← Reader.char ':' cs
  let (n, r) ← readNumber 10 65536 (fun _ => true) cs
  return (UInt16.ofNat n, r)

/-- Reads the number of a network, zero if there is none. -/
def readScope (cs : List Char) : UInt32 × List Char :=
  match Reader.char '%' cs with
  | none => (0, cs)
  | some (_, r) =>
    match readNumber 10 UInt32.size (fun _ => true) r with
    | none => (0, cs)
    | some (n, r) => (UInt32.ofNat n, r)

/-- Reads octets and a port. -/
def readV4 : Reader SocketAddress := fun cs => do
  let (o, cs) ← readOctets cs
  let (p, cs) ← readPort cs
  return (⟨.v4 o, p⟩, cs)

/-- Reads groups in brackets and a port. -/
def readV6 : Reader SocketAddress := fun cs => do
  let (_, cs) ← Reader.char '[' cs
  let (g, cs) ← readHostGroups cs
  let (s, cs) := readScope cs
  let (_, cs) ← Reader.char ']' cs
  let (p, cs) ← readPort cs
  return (⟨.v6 g s, p⟩, cs)

/-- The address that a whole text writes. -/
def ofText? (s : String) : Option SocketAddress :=
  match (readV4 s.toList).or (readV6 s.toList) with
  | some (a, []) => some a
  | _ => none

/-! ## Writing -/

/-- Octets with points between them. -/
def octetsText (o : Vector UInt8 4) : String :=
  ".".intercalate (o.toList.map fun b => s!"{b.toNat}")

/-- Groups with colons between them. -/
def groupsText (g : List UInt16) : String := ":".intercalate (g.map fun x => hexOfNat x.toNat)

/-- How many zero groups there are from the start. -/
def zeroRun (g : List UInt16) : Nat := (g.takeWhile (· == 0)).length

/-- The start and the length of the longest run of zero groups, the first of several. -/
def longestRun (g : List UInt16) : Nat × Nat :=
  (List.range g.length).foldl
    (fun best i => if best.2 < zeroRun (g.drop i) then (i, zeroRun (g.drop i)) else best) (0, 0)

/-- The octets in the last two groups of a host that wraps them. -/
def wrapped? (g : Vector UInt16 8) : Option (Vector UInt8 4) :=
  match g.toList with
  | [0, 0, 0, 0, 0, 0xffff, a, b] =>
    some #v[(a / 256).toUInt8, a.toUInt8, (b / 256).toUInt8, b.toUInt8]
  | _ => none

/-- Eight groups, the longest run of zeros left out. -/
def hostGroupsText (g : Vector UInt16 8) : String :=
  match wrapped? g with
  | some o => "::ffff:" ++ octetsText o
  | none =>
    let (start, length) := longestRun g.toList
    if 1 < length then
      groupsText (g.toList.take start) ++ "::" ++ groupsText (g.toList.drop (start + length))
    else groupsText g.toList

/-- Host and port. -/
def text (a : SocketAddress) : String :=
  match a.host with
  | .v4 o => s!"{octetsText o}:{a.port.toNat}"
  | .v6 g s =>
    let scope := if s = 0 then "" else s!"%{s.toNat}"
    s!"[{hostGroupsText g}{scope}]:{a.port.toNat}"

instance : Inhabited SocketAddress := ⟨⟨.v4 #v[0, 0, 0, 0], 0⟩⟩

end SocketAddress

end MeteredRelay
