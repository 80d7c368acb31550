import Southbound.Wire.Descriptor
import Southbound.Wire.Hello

/-!
# OpenFlow 1.3 bodies

How each message body is written and read in OpenFlow 1.3. Every message of this library has a
body in this version, so `write` cannot fail; only the length of the whole message can.
-/

namespace Southbound.V13

/-- The length of a port description. -/
def portSize : Nat := 64

/-! ## Writing -/

/-- A match is an element of type 1, padded like the elements of a hello. -/
def writeMatch (m : FlowMatch) : Bytes :=
  let fields := match m with
    | .all => []
    | .raw bytes => bytes
  let length := 4 + fields.length
  BigEndian.ofNat 2 1 ++ BigEndian.ofNat 2 length ++ fields ++ Write.zeros (Hello.padding length)

def writePort (p : Port) : Bytes :=
  Write.u32 p.number ++ Write.zeros 4 ++ p.address.toBytes ++ Write.zeros 2 ++
    FixedText.encode 16 p.name ++ Write.u32 p.config ++ Write.u32 p.state ++ Write.u32 p.current ++
    Write.u32 p.advertised ++ Write.u32 p.supported ++ Write.u32 p.peer ++
    Write.u32 p.currentSpeed ++ Write.u32 p.maxSpeed

def writeFeatures (f : SwitchFeatures) : Bytes :=
  Write.u64 f.datapathId ++ Write.u32 f.numBuffers ++ Write.u8 f.numTables ++
    Write.u8 f.auxiliaryId ++ Write.zeros 2 ++ Write.u32 f.capabilities ++ Write.zeros 4

def writePacketIn (p : PacketIn) : Bytes :=
  Write.buffer p.buffer ++ Write.u16 p.totalLength ++ Write.u8 p.reason ++ Write.u8 p.table ++
    Write.u64 p.cookie ++ writeMatch p.flowMatch ++ Write.zeros 2 ++ p.data

def writeFlowRemoved (r : FlowRemoved) : Bytes :=
  Write.u64 r.cookie ++ Write.u16 r.priority ++ Write.u8 r.reason ++ Write.u8 r.table ++
    Write.u32 r.durationSec ++ Write.u32 r.durationNsec ++ Write.u16 r.idleTimeout ++
    Write.u16 r.hardTimeout ++ Write.u64 r.packetCount ++ Write.u64 r.byteCount ++
    writeMatch r.flowMatch

def writePortStatus (s : PortStatus) : Bytes :=
  Write.u8 s.reason.toWire ++ Write.zeros 7 ++ writePort s.port

def writePacketOut (p : PacketOut) : Bytes :=
  Write.buffer p.buffer ++ Write.u32 p.inPort ++ BigEndian.ofNat 2 p.actions.length ++
    Write.zeros 6 ++ p.actions ++ p.data

def writeFlowMod (f : FlowMod) : Bytes :=
  Write.u64 f.cookie ++ Write.u64 f.cookieMask ++ Write.u8 f.table ++
    Write.u8 f.command.toWire.toUInt8 ++ Write.u16 f.idleTimeout ++ Write.u16 f.hardTimeout ++
    Write.u16 f.priority ++ Write.buffer f.buffer ++ Write.u32 f.outPort ++ Write.u32 f.outGroup ++
    Write.u16 f.flags ++ Write.zeros 2 ++ writeMatch f.flowMatch ++ f.instructions

def writePortMod (m : PortMod) : Bytes :=
  Write.u32 m.number ++ Write.zeros 4 ++ m.address.toBytes ++ Write.zeros 2 ++
    Write.u32 m.config ++ Write.u32 m.mask ++ Write.u32 m.advertise ++ Write.zeros 4

def writeMultipartBody : MultipartBody → Bytes
  | .desc d => Write.deviceDescriptor d
  | .ports ps => ps.flatMap writePort
  | .raw bytes => bytes

def write : Message → Bytes
  | .hello versions => Hello.write versions
  | .error e => Write.errorMessage e
  | .echoRequest data | .echoReply data | .experimenter data | .groupMod data => data
  | .featuresRequest | .getConfigRequest | .barrierRequest | .barrierReply => []
  | .featuresReply f => writeFeatures f
  | .getConfigReply c | .setConfig c => Write.switchConfig c
  | .packetIn p => writePacketIn p
  | .flowRemoved r => writeFlowRemoved r
  | .portStatus s => writePortStatus s
  | .packetOut p => writePacketOut p
  | .flowMod f => writeFlowMod f
  | .portMod m => writePortMod m
  | .multipartRequest r =>
    Write.u16 r.kind.toWire13 ++ Write.u16 r.flags ++ Write.zeros 4 ++ r.body
  | .multipartReply r =>
    Write.u16 r.kind.toWire13 ++ Write.u16 r.flags ++ Write.zeros 4 ++ writeMultipartBody r.body

/-! ## Reading -/

open Reader

def readMatch : Reader FlowMatch := do
  let kind ← u16
  if kind ≠ 1 then fail (.unexpectedValue (toString kind) "match type" "ofp_match")
  let length ← UInt16.toNat <$> u16
  if length < 4 then fail (.unexpectedValue (toString length) "match length" "ofp_match")
  let fields ← bytes (length - 4)
  -- unlike that of a hello element, this padding has to be there
  skip (Hello.padding length)
  -- a match without fields selects every packet
  return if fields.isEmpty then .all else .raw fields

def readPort : Reader Port := do
  need portSize
  let number ← u32
  skip 4
  let address ← mac
  skip 2
  return {
    number, address
    name := ← FixedText.read 16
    config := ← u32
    state := ← u32
    current := ← u32
    advertised := ← u32
    supported := ← u32
    peer := ← u32
    currentSpeed := ← u32
    maxSpeed := ← u32 }

def readFeatures : Reader SwitchFeatures := do
  let datapathId ← u64
  let numBuffers ← u32
  let numTables ← u8
  let auxiliaryId ← u8
  skip 2
  let capabilities ← u32
  skip 4
  return { datapathId, numBuffers, numTables, auxiliaryId, capabilities }

/-- The ingress port is not a field of its own: it is the one that the match holds. -/
def readPacketIn : Reader PacketIn := do
  let buffer ← buffer
  let totalLength ← u16
  let reason ← u8
  let table ← u8
  let cookie ← u64
  let flowMatch ← readMatch
  skip 2
  let inPort := match flowMatch with
    | .all => none
    | .raw fields => Oxm.inPort? fields
  return {
    buffer, totalLength, reason, table, cookie, flowMatch
    inPort := inPort.getD PortNumber.any
    data := ← rest }

def readFlowRemoved : Reader FlowRemoved := do
  return {
    cookie := ← u64
    priority := ← u16
    reason := ← u8
    table := ← u8
    durationSec := ← u32
    durationNsec := ← u32
    idleTimeout := ← u16
    hardTimeout := ← u16
    packetCount := ← u64
    byteCount := ← u64
    flowMatch := ← readMatch }

def readPortStatus : Reader PortStatus := do
  let reason ← portReason
  skip 7
  return { reason, port := ← readPort }

def readPacketOut : Reader PacketOut := do
  let buffer ← buffer
  let inPort ← u32
  let length ← UInt16.toNat <$> u16
  skip 6
  return { buffer, inPort, actions := ← bytes length, data := ← rest }

def readFlowMod : Reader FlowMod := do
  let cookie ← u64
  let cookieMask ← u64
  let table ← u8
  let number ← u8
  let command ← expect (FlowCommand.ofWire? number.toUInt16) (toString number) "command" "FlowMod"
  let idleTimeout ← u16
  let hardTimeout ← u16
  let priority ← u16
  let buffer ← buffer
  let outPort ← u32
  let outGroup ← u32
  let flags ← u16
  skip 2
  let flowMatch ← readMatch
  return {
    version := some Version.v13
    cookie, cookieMask, table, command, idleTimeout, hardTimeout, priority, buffer, outPort
    outGroup, flags, flowMatch
    instructions := ← rest }

def readPortMod : Reader PortMod := do
  let number ← u32
  skip 4
  let address ← mac
  skip 2
  let config ← u32
  let mask ← u32
  let advertise ← u32
  skip 4
  return { number, address, config, mask, advertise }

def readMultipartKind : Reader MultipartKind := do
  let n ← u16
  expect (MultipartKind.ofWire13? n) (toString n) "type" "ofp_multipart"

def readMultipartBody : MultipartKind → Reader MultipartBody
  | .desc => .desc <$> deviceDescriptor
  | .portDesc => .ports <$> each portSize readPort
  | _ => .raw <$> rest

def readMultipartRequest : Reader MultipartRequest := do
  let kind ← readMultipartKind
  let flags ← u16
  skip 4
  return { kind, flags, body := ← rest }

def readMultipartReply : Reader MultipartReply := do
  let kind ← readMultipartKind
  let flags ← u16
  skip 4
  return { kind, flags, body := ← readMultipartBody kind }

/-- Reads the body of a message of a given type; bytes behind what the type calls for are
ignored. -/
def read (type : MessageType) (body : Bytes) : Except WireError Message :=
  match type with
  | .hello => .hello <$> Hello.read body
  | .error => .error <$> errorMessage.run body
  | .echoRequest => .ok (.echoRequest body)
  | .echoReply => .ok (.echoReply body)
  | .experimenter => .ok (.experimenter body)
  | .featuresRequest => .ok .featuresRequest
  | .featuresReply => .featuresReply <$> readFeatures.run body
  | .getConfigRequest => .ok .getConfigRequest
  | .getConfigReply => .getConfigReply <$> switchConfig.run body
  | .setConfig => .setConfig <$> switchConfig.run body
  | .packetIn => .packetIn <$> readPacketIn.run body
  | .flowRemoved => .flowRemoved <$> readFlowRemoved.run body
  | .portStatus => .portStatus <$> readPortStatus.run body
  | .packetOut => .packetOut <$> readPacketOut.run body
  | .flowMod => .flowMod <$> readFlowMod.run body
  | .groupMod => .ok (.groupMod body)
  | .portMod => .portMod <$> readPortMod.run body
  | .multipartRequest => .multipartRequest <$> readMultipartRequest.run body
  | .multipartReply => .multipartReply <$> readMultipartReply.run body
  | .barrierRequest => .ok .barrierRequest
  | .barrierReply => .ok .barrierReply
  | .tableMod | .queueConfigRequest | .queueConfigReply | .roleRequest | .roleReply =>
    .error (.unsupportedMessage Version.v13 type)

end Southbound.V13
