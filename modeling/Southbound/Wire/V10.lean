import Southbound.Text.Hex
import Southbound.Wire.Descriptor

/-!
# OpenFlow 1.0 bodies

How each message body is written and read in OpenFlow 1.0. This version has 16-bit port numbers,
a match of fixed size, no groups and fewer kinds of statistics, so writing can fail.
-/

namespace Southbound.V10

/-- The length of a port description. -/
def portSize : Nat := 48

/-! ## Port numbers -/

/-- The first of the reserved port numbers in 16 bits. -/
def reservedPort : Nat := 0xff00

/-- The 32-bit number of a 16-bit one: reserved numbers keep their distance from the top. -/
def widenPort (n : UInt16) : PortNumber :=
  if n.toNat ≥ reservedPort then UInt32.ofNat (0xffff0000 + n.toNat) else n.toUInt32

/-- The 16-bit number of a 32-bit one, if there is one. -/
def narrowPort? (n : PortNumber) : Option UInt16 :=
  if n.toNat ≥ 0xffff0000 + reservedPort then some (UInt16.ofNat (n.toNat % 0x10000))
  else if n.toNat < reservedPort then some (UInt16.ofNat n.toNat)
  else none

/-- What widening gives can be narrowed, to the same number. -/
@[simp] theorem narrowPort?_widenPort (n : UInt16) : narrowPort? (widenPort n) = some n := by
  have hn : n.toNat < 65536 := UInt16.toNat_lt n
  unfold widenPort narrowPort? reservedPort
  split
  · next h =>
    have h32 : (UInt32.ofNat (0xffff0000 + n.toNat)).toNat = 0xffff0000 + n.toNat := by
      rw [UInt32.toNat_ofNat']
      omega
    rw [h32, if_pos (by omega), show (0xffff0000 + n.toNat) % 0x10000 = n.toNat by omega,
      UInt16.ofNat_toNat]
  · next h =>
    rw [UInt16.toNat_toUInt32, if_neg (by omega), if_pos (by omega), UInt16.ofNat_toNat]

/-! ## Writing -/

/-- The match that selects every packet: all wildcard bits set, including both full address
masks. -/
def wildcards : Bytes := BigEndian.ofNat 4 0x3fffff ++ Write.zeros (matchLength10 - 4)

def writeMatch : FlowMatch → Except WireError Bytes
  | .all => .ok wildcards
  | .raw bytes =>
    if bytes.length = matchLength10 then .ok bytes
    else .error (.unexpectedValue (toString bytes.length) "length" "ofp_match")

def writePortNumber (n : PortNumber) : Except WireError Bytes :=
  match narrowPort? n with
  | some k => .ok (Write.u16 k)
  | none => .error (.unexpectedValue ("0x" ++ Hex.ofNat n.toNat) "port number" "1.0 port")

def writePort (p : Port) : Except WireError Bytes := do
  let number ← writePortNumber p.number
  return number ++ p.address.toBytes ++ FixedText.encode 16 p.name ++ Write.u32 p.config ++
    Write.u32 p.state ++ Write.u32 p.current ++ Write.u32 p.advertised ++ Write.u32 p.supported ++
    Write.u32 p.peer

def writeFeatures (f : SwitchFeatures) : Except WireError Bytes := do
  let ports ← f.ports.mapM writePort
  return Write.u64 f.datapathId ++ Write.u32 f.numBuffers ++ Write.u8 f.numTables ++
    Write.zeros 3 ++ Write.u32 f.capabilities ++ Write.u32 f.actions ++ ports.flatten

def writePacketIn (p : PacketIn) : Except WireError Bytes := do
  let inPort ← writePortNumber p.inPort
  return Write.buffer p.buffer ++ Write.u16 p.totalLength ++ inPort ++ Write.u8 p.reason ++
    Write.zeros 1 ++ p.data

def writeFlowRemoved (r : FlowRemoved) : Except WireError Bytes := do
  let flowMatch ← writeMatch r.flowMatch
  return flowMatch ++ Write.u64 r.cookie ++ Write.u16 r.priority ++ Write.u8 r.reason ++
    Write.zeros 1 ++ Write.u32 r.durationSec ++ Write.u32 r.durationNsec ++
    Write.u16 r.idleTimeout ++ Write.zeros 2 ++ Write.u64 r.packetCount ++ Write.u64 r.byteCount

def writePortStatus (s : PortStatus) : Except WireError Bytes := do
  let port ← writePort s.port
  return Write.u8 s.reason.toWire ++ Write.zeros 7 ++ port

def writePacketOut (p : PacketOut) : Except WireError Bytes := do
  let inPort ← writePortNumber p.inPort
  return Write.buffer p.buffer ++ inPort ++ BigEndian.ofNat 2 p.actions.length ++ p.actions ++
    p.data

/-- A bad match is reported before a bad port. -/
def writeFlowMod (f : FlowMod) : Except WireError Bytes := do
  let flowMatch ← writeMatch f.flowMatch
  let outPort ← writePortNumber f.outPort
  return flowMatch ++ Write.u64 f.cookie ++ Write.u16 f.command.toWire ++
    Write.u16 f.idleTimeout ++ Write.u16 f.hardTimeout ++ Write.u16 f.priority ++
    Write.buffer f.buffer ++ outPort ++ Write.u16 f.flags ++ f.instructions

def writePortMod (m : PortMod) : Except WireError Bytes := do
  let number ← writePortNumber m.number
  return number ++ m.address.toBytes ++ Write.u32 m.config ++ Write.u32 m.mask ++
    Write.u32 m.advertise ++ Write.zeros 4

def writeMultipartKind (k : MultipartKind) : Except WireError Bytes :=
  match k.toWire10? with
  | some n => .ok (Write.u16 n)
  | none => .error (.unexpectedValue k.label "type" "ofp_stats (1.0)")

def writeMultipartBody : MultipartBody → Except WireError Bytes
  | .desc d => .ok (Write.deviceDescriptor d)
  | .raw bytes => .ok bytes
  | .ports _ => .error (.unsupportedMessage Version.v10 .multipartReply)

def write : Message → Except WireError Bytes
  -- a hello of this version lists nothing
  | .hello _ => .ok []
  | .error e => .ok (Write.errorMessage e)
  | .echoRequest data | .echoReply data | .experimenter data => .ok data
  | .featuresRequest | .getConfigRequest | .barrierRequest | .barrierReply => .ok []
  | .featuresReply f => writeFeatures f
  | .getConfigReply c | .setConfig c => .ok (Write.switchConfig c)
  | .packetIn p => writePacketIn p
  | .flowRemoved r => writeFlowRemoved r
  | .portStatus s => writePortStatus s
  | .packetOut p => writePacketOut p
  | .flowMod f => writeFlowMod f
  | .portMod m => writePortMod m
  | .multipartRequest r => do
    let kind ← writeMultipartKind r.kind
    return kind ++ Write.u16 r.flags ++ r.body
  | .multipartReply r => do
    let kind ← writeMultipartKind r.kind
    let body ← writeMultipartBody r.body
    return kind ++ Write.u16 r.flags ++ body
  | .groupMod _ => .error (.unsupportedMessage Version.v10 .groupMod)

/-! ## Reading -/

open Reader

def readMatch : Reader FlowMatch := do
  let raw ← bytes matchLength10
  -- every packet has one spelling; other wildcards stay as they are
  return if raw = wildcards then .all else .raw raw

def readPortNumber : Reader PortNumber := widenPort <$> u16

def readPort : Reader Port := do
  need portSize
  return {
    number := ← readPortNumber
    address := ← mac
    name := ← FixedText.read 16
    config := ← u32
    state := ← u32
    current := ← u32
    advertised := ← u32
    supported := ← u32
    peer := ← u32 }

def readFeatures : Reader SwitchFeatures := do
  let datapathId ← u64
  let numBuffers ← u32
  let numTables ← u8
  skip 3
  let capabilities ← u32
  let actions ← u32
  return {
    datapathId, numBuffers, numTables, capabilities, actions
    ports := ← each portSize readPort }

def readPacketIn : Reader PacketIn := do
  let buffer ← buffer
  let totalLength ← u16
  let inPort ← readPortNumber
  let reason ← u8
  skip 1
  return { buffer, totalLength, inPort, reason, data := ← rest }

def readFlowRemoved : Reader FlowRemoved := do
  let flowMatch ← readMatch
  let cookie ← u64
  let priority ← u16
  let reason ← u8
  skip 1
  let durationSec ← u32
  let durationNsec ← u32
  let idleTimeout ← u16
  skip 2
  return {
    flowMatch, cookie, priority, reason, durationSec, durationNsec, idleTimeout
    packetCount := ← u64
    byteCount := ← u64 }

def readPortStatus : Reader PortStatus := do
  let reason ← portReason
  skip 7
  return { reason, port := ← readPort }

def readPacketOut : Reader PacketOut := do
  let buffer ← buffer
  let inPort ← readPortNumber
  let length ← UInt16.toNat <$> u16
  return { buffer, inPort, actions := ← bytes length, data := ← rest }

/-- This version has a single table, and deletions that select by subset apply to all there is. -/
def readFlowMod : Reader FlowMod := do
  let flowMatch ← readMatch
  let cookie ← u64
  let number ← u16
  let command ← expect (FlowCommand.ofWire? number) (toString number) "command" "FlowMod"
  let idleTimeout ← u16
  let hardTimeout ← u16
  let priority ← u16
  let buffer ← buffer
  let outPort ← readPortNumber
  let flags ← u16
  return {
    version := some Version.v10
    table := if command = .delete then allTables else 0
    cookie, command, idleTimeout, hardTimeout, priority, buffer, outPort, flags, flowMatch
    instructions := ← rest }

def readPortMod : Reader PortMod := do
  let number ← readPortNumber
  let address ← mac
  let config ← u32
  let mask ← u32
  let advertise ← u32
  skip 4
  return { number, address, config, mask, advertise }

def readMultipartKind : Reader MultipartKind := do
  let n ← u16
  expect (MultipartKind.ofWire10? n) (toString n) "type" "ofp_stats"

def readMultipartBody : MultipartKind → Reader MultipartBody
  | .desc => .desc <$> deviceDescriptor
  | _ => .raw <$> rest

def readMultipartRequest : Reader MultipartRequest := do
  return { kind := ← readMultipartKind, flags := ← u16, body := ← rest }

def readMultipartReply : Reader MultipartReply := do
  let kind ← readMultipartKind
  let flags ← u16
  return { kind, flags, body := ← readMultipartBody kind }

/-- Reads the body of a message of a given type; bytes behind what the type calls for are
ignored. -/
def read (type : MessageType) (body : Bytes) : Except WireError Message :=
  match type with
  | .hello => .ok (.hello [])
  | .error => .error <$> errorMessage.run body
  | .echoRequest => .ok (.echoRequest body)
  | .echoReply => .ok (.echoReply body)
  | .experimenter => .ok (.experimenter body)
  | .featuresRequest => .ok .featuresRequest
  | .featuresReply => .featuresReply <$> readFeatures.run body
  | .getConfigRequest => .ok .getConfigRequest
  | .getConfigReply => .getConfigReply <$> switchConfig.run body
  | .setConfig => .setConfig <$> switchConfig.run body
  | .packetIn => .packetIn <$> readPacketIn.run body
  | .flowRemoved => .flowRemoved <$> readFlowRemoved.run body
  | .portStatus => .portStatus <$> readPortStatus.run body
  | .packetOut => .packetOut <$> readPacketOut.run body
  | .flowMod => .flowMod <$> readFlowMod.run body
  | .portMod => .portMod <$> readPortMod.run body
  | .multipartRequest => .multipartRequest <$> readMultipartRequest.run body
  | .multipartReply => .multipartReply <$> readMultipartReply.run body
  | .barrierRequest => .ok .barrierRequest
  | .barrierReply => .ok .barrierReply
  | .groupMod | .tableMod | .queueConfigRequest | .queueConfigReply | .roleRequest
  | .roleReply => .error (.unsupportedMessage Version.v10 type)

end Southbound.V10
