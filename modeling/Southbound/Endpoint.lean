import Southbound.Text.Hex

/-!
# Endpoints

Addresses to listen on: a numeric host and a port, read from text and written in the one canonical
form, in which the longest run of zero groups of an IPv6 address is left out. An IPv6 address may
be one of a zone, whose number follows it behind a percent sign.
-/

namespace Southbound

inductive Host where
  | v4 (a b c d : UInt8)
  /-- The eight groups of an IPv6 address, and its zone: 0 if it is of no zone in particular. -/
  | v6 (groups : Vector UInt16 8) (zone : UInt32)
deriving DecidableEq

structure Endpoint where
  host : Host
  port : UInt16
deriving DecidableEq

namespace Host

/-! ## Writing -/

/-- The length of the run of zeros at the front. -/
def zeroRun (groups : List UInt16) : Nat := (groups.takeWhile (· = 0)).length

/-- The start and the length of the first longest run of zeros. -/
def longestZeroRun (groups : List UInt16) : Nat × Nat :=
  (List.range groups.length).foldl (fun best i =>
    let n := zeroRun (groups.drop i)
    if n > best.2 then (i, n) else best) (0, 0)

def groupsText (groups : List UInt16) : String :=
  ":".intercalate (groups.map fun g => Hex.ofNat g.toNat)

def v4Text (a b c d : UInt8) : String := s!"{a}.{b}.{c}.{d}"

/-- An address that embeds an IPv4 address ends in that one's own form. A single zero group is not
left out. -/
def v6Text (groups : List UInt16) : String :=
  match groups with
  | [0, 0, 0, 0, 0, 0xffff, hi, lo] =>
    "::ffff:" ++ v4Text (UInt8.ofNat (hi.toNat / 256)) (UInt8.ofNat hi.toNat)
      (UInt8.ofNat (lo.toNat / 256)) (UInt8.ofNat lo.toNat)
  | _ =>
    let (start, n) := longestZeroRun groups
    if n > 1 then
      groupsText (groups.take start) ++ "::" ++ groupsText (groups.drop (start + n))
    else groupsText groups

/-- Zone 0 is not written. -/
def zoneText (zone : UInt32) : String := if zone = 0 then "" else s!"%{zone}"

def text : Host → String
  | v4 a b c d => v4Text a b c d
  | v6 groups zone => "[" ++ v6Text groups.toList ++ zoneText zone ++ "]"

/-! ## Reading -/

/-- A decimal number up to `limit`, digits only. -/
def decimal? (limit : Nat) (s : String) : Option Nat :=
  let cs := s.toList
  if cs.isEmpty || !cs.all Char.isDigit then none
  else
    let n := cs.foldl (fun n c => 10 * n + (c.toNat - '0'.toNat)) 0
    if n ≤ limit then some n else none

/-- One of the four numbers of an IPv4 address, without leading zeros. -/
def octet? (s : String) : Option UInt8 :=
  if s.length > 1 && s.startsWith "0" then none else (decimal? 255 s).map UInt8.ofNat

def octets? (s : String) : Option (UInt8 × UInt8 × UInt8 × UInt8) :=
  match s.splitOn "." with
  | [a, b, c, d] => do return (← octet? a, ← octet? b, ← octet? c, ← octet? d)
  | _ => none

/-- A group of one to four hexadecimal digits. -/
def group? (s : String) : Option UInt16 :=
  let cs := s.toList
  if cs.isEmpty || cs.length > 4 then none
  else (cs.mapM Hex.value?).map fun ds => UInt16.ofNat (ds.foldl (fun n d => 16 * n + d) 0)

/-- Groups parted by colons; an IPv4 address may stand for the last two if `embeds`. -/
def groups? (embeds : Bool) : List String → Option (List UInt16)
  | [] => some []
  | [last] =>
    match group? last with
    | some g => some [g]
    | none =>
      if embeds then
        (octets? last).map fun (a, b, c, d) =>
          [UInt16.ofNat (256 * a.toNat + b.toNat), UInt16.ofNat (256 * c.toNat + d.toNat)]
      else none
  | s :: more => do return (← group? s) :: (← groups? embeds more)

/-- The parts between colons, none in an empty text. -/
def parts (s : String) : List String := if s.isEmpty then [] else s.splitOn ":"

def ofGroups? (gs : List UInt16) : Option (Vector UInt16 8) :=
  if h : gs.toArray.size = 8 then some ⟨gs.toArray, h⟩ else none

/-- All eight groups, or those around two colons that stand for at least one group of zero. -/
def address? (s : String) : Option (Vector UInt16 8) :=
  match s.splitOn "::" with
  | [whole] => do ofGroups? (← groups? true (parts whole))
  -- an embedded address can only stand at the very end
  | [front, back] => do
    let f ← groups? false (parts front)
    let b ← groups? true (parts back)
    if f.length + b.length ≤ 7 then
      ofGroups? (f ++ List.replicate (8 - f.length - b.length) 0 ++ b)
    else none
  | _ => none

/-- An address with or without a zone. -/
def v6? (s : String) : Option Host :=
  match s.splitOn "%" with
  | [address] => do return .v6 (← address? address) 0
  | [address, zone] => do
    return .v6 (← address? address) (UInt32.ofNat (← decimal? 0xffffffff zone))
  | _ => none

def v4? (s : String) : Option Host := (octets? s).map fun (a, b, c, d) => .v4 a b c d

end Host

namespace Endpoint

/-- The port that OpenFlow switches connect to. -/
def defaultPort : UInt16 := 6653

/-- Every address of this machine. -/
def everywhere : Endpoint := ⟨.v4 0 0 0 0, defaultPort⟩

def text (e : Endpoint) : String := s!"{e.host.text}:{e.port}"

/-- Reads `host:port`, with the host in brackets if it is an IPv6 address. -/
def parse? (s : String) : Option Endpoint :=
  let cs := s.toList
  -- the last colon parts host and port; an IPv6 address has more of them
  let port := (cs.reverse.takeWhile (· ≠ ':')).reverse
  let host := cs.take (cs.length - port.length - 1)
  if host.length + port.length = cs.length then none
  else do
    let port ← Host.decimal? 65535 (String.ofList port)
    let host ←
      if host.head? = some '[' ∧ host.getLast? = some ']' then
        Host.v6? (String.ofList (host.drop 1).dropLast)
      else Host.v4? (String.ofList host)
    return ⟨host, UInt16.ofNat port⟩

end Endpoint

end Southbound
