import Southbound.OpenFlow.Message
import Southbound.Record.Basic

/-!
# Messages as records

Every message has a record that names its type and its fields. A record of a message is read with
the defaults of its type, so only fields that matter have to be given.
-/

namespace Southbound

/-! ## Parts of messages -/

namespace MacAddress

def toRecord (a : MacAddress) : Record := .ofBytes a.toBytes

/-- Six bytes, or none for the address of zeros. -/
def ofRecord? (r : Record) : Option MacAddress := do
  let bs ← r.asBytes?
  if bs.isEmpty then some {} else ofBytes? bs

end MacAddress

namespace Port

def toRecord (p : Port) : Record := .fields [
  ("port_no", .ofU32 p.number), ("hw_addr", p.address.toRecord), ("name", .text p.name),
  ("config", .ofU32 p.config), ("state", .ofU32 p.state), ("curr", .ofU32 p.current),
  ("advertised", .ofU32 p.advertised), ("supported", .ofU32 p.supported), ("peer", .ofU32 p.peer),
  ("curr_speed", .ofU32 p.currentSpeed), ("max_speed", .ofU32 p.maxSpeed)]

def ofRecord? (r : Record) : Option Port := do
  return {
    number := ← r.u32 "port_no", address := ← MacAddress.ofRecord? (r.get "hw_addr")
    name := ← r.string "name", config := ← r.u32 "config", state := ← r.u32 "state"
    current := ← r.u32 "curr", advertised := ← r.u32 "advertised"
    supported := ← r.u32 "supported", peer := ← r.u32 "peer"
    currentSpeed := ← r.u32 "curr_speed", maxSpeed := ← r.u32 "max_speed" }

end Port

namespace FlowMatch

/-- Null stands for every packet. -/
def toRecord : FlowMatch → Record
  | .all => .null
  | .raw bs => .ofBytes bs

def ofRecord? (r : Record) : Option FlowMatch :=
  if r.isNull then some .all else r.asBytes?.map .raw

end FlowMatch

def PortReason.ofRecord? : Record → Option PortReason :=
  Record.asOneOf? [.add, .delete, .modify] label

namespace PortStatus

def toRecord (s : PortStatus) : Record := .fields [
  ("type", .text "PortStatus"), ("reason", .text s.reason.label), ("desc", s.port.toRecord)]

def ofRecord? (r : Record) : Option PortStatus := do
  return {
    reason := ← Record.orElse .add PortReason.ofRecord? r "reason"
    port := ← Port.ofRecord? (r.get "desc") }

end PortStatus

namespace SwitchFeatures

def toRecord (f : SwitchFeatures) : Record := .fields [
  ("type", .text "FeaturesReply"), ("datapath_id", .ofU64 f.datapathId),
  ("num_buffers", .ofU32 f.numBuffers), ("num_tables", .ofU8 f.numTables),
  ("auxiliary_id", .ofU8 f.auxiliaryId), ("capabilities", .ofU32 f.capabilities),
  ("actions", .ofU32 f.actions), ("ports", .ofList Port.toRecord f.ports)]

def ofRecord? (r : Record) : Option SwitchFeatures := do
  return {
    datapathId := ← r.u64 "datapath_id", numBuffers := ← r.u32 "num_buffers"
    numTables := ← r.u8 "num_tables", auxiliaryId := ← r.u8 "auxiliary_id"
    capabilities := ← r.u32 "capabilities", actions := ← r.u32 "actions"
    ports := ← r.each Port.ofRecord? "ports" }

end SwitchFeatures

namespace SwitchConfig

def toRecord (type : String) (c : SwitchConfig) : Record := .fields [
  ("type", .text type), ("flags", .ofU16 c.flags), ("miss_send_len", .ofU16 c.missSendLength)]

def ofRecord? (r : Record) : Option SwitchConfig := do
  return { flags := ← r.u16 "flags", missSendLength := ← r.u16 "miss_send_len" }

end SwitchConfig

namespace ErrorMessage

def toRecord (e : ErrorMessage) : Record := .fields [
  ("type", .text "Error"), ("err_type", .ofU16 e.kind), ("code", .ofU16 e.code),
  ("data", .ofBytes e.data)]

def ofRecord? (r : Record) : Option ErrorMessage := do
  return { kind := ← r.u16 "err_type", code := ← r.u16 "code", data := ← r.bytes "data" }

end ErrorMessage

/-! ## Packets and flows -/

namespace PacketIn

def toRecord (p : PacketIn) : Record := .fields [
  ("type", .text "PacketIn"), ("buffer_id", .ofOption .ofU32 p.buffer),
  ("total_len", .ofU16 p.totalLength), ("in_port", .ofU32 p.inPort), ("reason", .ofU8 p.reason),
  ("table_id", .ofU8 p.table), ("cookie", .ofU64 p.cookie), ("match", p.flowMatch.toRecord),
  ("data", .ofBytes p.data)]

def ofRecord? (r : Record) : Option PacketIn := do
  return {
    buffer := ← Record.optional Record.asU32? r "buffer_id", totalLength := ← r.u16 "total_len"
    inPort := ← r.u32 "in_port", reason := ← r.u8 "reason", table := ← r.u8 "table_id"
    cookie := ← r.u64 "cookie", flowMatch := ← FlowMatch.ofRecord? (r.get "match")
    data := ← r.bytes "data" }

end PacketIn

namespace PacketOut

def toRecord (p : PacketOut) : Record := .fields [
  ("type", .text "PacketOut"), ("buffer_id", .ofOption .ofU32 p.buffer),
  ("in_port", .ofU32 p.inPort), ("actions", .ofBytes p.actions), ("data", .ofBytes p.data)]

def ofRecord? (r : Record) : Option PacketOut := do
  return {
    buffer := ← Record.optional Record.asU32? r "buffer_id", inPort := ← r.u32 "in_port"
    actions := ← r.bytes "actions", data := ← r.bytes "data" }

end PacketOut

namespace FlowRemoved

def toRecord (f : FlowRemoved) : Record := .fields [
  ("type", .text "FlowRemoved"), ("cookie", .ofU64 f.cookie), ("priority", .ofU16 f.priority),
  ("reason", .ofU8 f.reason), ("table_id", .ofU8 f.table),
  ("duration_sec", .ofU32 f.durationSec), ("duration_nsec", .ofU32 f.durationNsec),
  ("idle_timeout", .ofU16 f.idleTimeout), ("hard_timeout", .ofU16 f.hardTimeout),
  ("packet_count", .ofU64 f.packetCount), ("byte_count", .ofU64 f.byteCount),
  ("match", f.flowMatch.toRecord)]

def ofRecord? (r : Record) : Option FlowRemoved := do
  return {
    cookie := ← r.u64 "cookie", priority := ← r.u16 "priority", reason := ← r.u8 "reason"
    table := ← r.u8 "table_id", durationSec := ← r.u32 "duration_sec"
    durationNsec := ← r.u32 "duration_nsec", idleTimeout := ← r.u16 "idle_timeout"
    hardTimeout := ← r.u16 "hard_timeout", packetCount := ← r.u64 "packet_count"
    byteCount := ← r.u64 "byte_count", flowMatch := ← FlowMatch.ofRecord? (r.get "match") }

end FlowRemoved

def FlowCommand.ofRecord? : Record → Option FlowCommand :=
  Record.asOneOf? [.add, .modify, .modifyStrict, .delete, .deleteStrict] label

namespace FlowMod

def toRecord (f : FlowMod) : Record := .fields [
  ("type", .text "FlowMod"), ("version", .ofOption .ofU8 f.version), ("cookie", .ofU64 f.cookie),
  ("cookie_mask", .ofU64 f.cookieMask), ("table_id", .ofU8 f.table),
  ("command", .text f.command.label), ("idle_timeout", .ofU16 f.idleTimeout),
  ("hard_timeout", .ofU16 f.hardTimeout), ("priority", .ofU16 f.priority),
  ("buffer_id", .ofOption .ofU32 f.buffer), ("out_port", .ofU32 f.outPort),
  ("out_group", .ofU32 f.outGroup), ("flags", .ofU16 f.flags), ("match", f.flowMatch.toRecord),
  ("instructions", .ofBytes f.instructions)]

def ofRecord? (r : Record) : Option FlowMod := do
  return {
    version := ← Record.optional Record.asU8? r "version", cookie := ← r.u64 "cookie"
    cookieMask := ← r.u64 "cookie_mask", table := ← r.u8 "table_id"
    command := ← Record.orElse .add FlowCommand.ofRecord? r "command"
    idleTimeout := ← r.u16 "idle_timeout", hardTimeout := ← r.u16 "hard_timeout"
    priority := ← r.u16 "priority", buffer := ← Record.optional Record.asU32? r "buffer_id"
    outPort := ← Record.orElse PortNumber.any Record.asU32? r "out_port"
    outGroup := ← Record.orElse anyGroup Record.asU32? r "out_group", flags := ← r.u16 "flags"
    flowMatch := ← FlowMatch.ofRecord? (r.get "match"), instructions := ← r.bytes "instructions" }

end FlowMod

namespace PortMod

def toRecord (m : PortMod) : Record := .fields [
  ("type", .text "PortMod"), ("port_no", .ofU32 m.number), ("hw_addr", m.address.toRecord),
  ("config", .ofU32 m.config), ("mask", .ofU32 m.mask), ("advertise", .ofU32 m.advertise)]

def ofRecord? (r : Record) : Option PortMod := do
  return {
    number := ← r.u32 "port_no", address := ← MacAddress.ofRecord? (r.get "hw_addr")
    config := ← r.u32 "config", mask := ← r.u32 "mask", advertise := ← r.u32 "advertise" }

end PortMod

/-! ## Multipart exchanges -/

def MultipartKind.ofRecord? : Record → Option MultipartKind := Record.asOneOf? all label

namespace DeviceDescriptor

def toRecord (d : DeviceDescriptor) : Record := .fields [
  ("manufacturer", .text d.manufacturer), ("hardware", .text d.hardware),
  ("software", .text d.software), ("serial_number", .text d.serialNumber),
  ("description", .text d.description)]

def ofRecord? (r : Record) : Option DeviceDescriptor := do
  return {
    manufacturer := ← r.string "manufacturer", hardware := ← r.string "hardware"
    software := ← r.string "software", serialNumber := ← r.string "serial_number"
    description := ← r.string "description" }

end DeviceDescriptor

namespace MultipartBody

/-- A record with the one field that says what kind of body it is. -/
def toRecord : MultipartBody → Record
  | .desc d => .fields [("desc", d.toRecord)]
  | .ports ps => .fields [("ports", .ofList Port.toRecord ps)]
  | .raw bs => .fields [("raw", .ofBytes bs)]

def ofRecord? (r : Record) : Option MultipartBody := do
  if r.has "desc" then return .desc (← DeviceDescriptor.ofRecord? (r.get "desc"))
  else if r.has "ports" then return .ports (← r.each Port.ofRecord? "ports")
  else return .raw (← r.bytes "raw")

end MultipartBody

namespace MultipartRequest

def toRecord (m : MultipartRequest) : Record := .fields [
  ("type", .text "MultipartRequest"), ("kind", .text m.kind.label), ("flags", .ofU16 m.flags),
  ("body", .ofBytes m.body)]

def ofRecord? (r : Record) : Option MultipartRequest := do
  return {
    kind := ← MultipartKind.ofRecord? (r.get "kind"), flags := ← r.u16 "flags"
    body := ← r.bytes "body" }

end MultipartRequest

namespace MultipartReply

def toRecord (m : MultipartReply) : Record := .fields [
  ("type", .text "MultipartReply"), ("kind", .text m.kind.label), ("flags", .ofU16 m.flags),
  ("body", m.body.toRecord)]

def ofRecord? (r : Record) : Option MultipartReply := do
  return {
    kind := ← MultipartKind.ofRecord? (r.get "kind"), flags := ← r.u16 "flags"
    body := ← MultipartBody.ofRecord? (r.get "body") }

end MultipartReply

/-! ## Messages -/

def MessageType.ofRecord? : Record → Option MessageType := Record.asOneOf? all label

namespace Message

/-- The record of a message without fields. -/
def bareRecord (type : String) : Record := .fields [("type", .text type)]

/-- The record of a message that is nothing but bytes. -/
def dataRecord (type : String) (data : Bytes) : Record :=
  .fields [("type", .text type), ("data", .ofBytes data)]

def toRecord : Message → Record
  | hello vs => .fields [("type", .text "Hello"), ("versions", .ofList .ofU8 vs)]
  | error e => e.toRecord
  | echoRequest d => dataRecord "EchoRequest" d
  | echoReply d => dataRecord "EchoReply" d
  | experimenter d => dataRecord "Experimenter" d
  | featuresRequest => bareRecord "FeaturesRequest"
  | featuresReply f => f.toRecord
  | getConfigRequest => bareRecord "GetConfigRequest"
  | getConfigReply c => c.toRecord "GetConfigReply"
  | setConfig c => c.toRecord "SetConfig"
  | packetIn p => p.toRecord
  | flowRemoved f => f.toRecord
  | portStatus s => s.toRecord
  | packetOut p => p.toRecord
  | flowMod f => f.toRecord
  | groupMod d => dataRecord "GroupMod" d
  | portMod m => m.toRecord
  | multipartRequest m => m.toRecord
  | multipartReply m => m.toRecord
  | barrierRequest => bareRecord "BarrierRequest"
  | barrierReply => bareRecord "BarrierReply"

def ofRecord? (r : Record) : Option Message := do
  match ← r.string "type" with
  | "Hello" => return hello (← r.each Record.asU8? "versions")
  | "Error" => return error (← ErrorMessage.ofRecord? r)
  | "EchoRequest" => return echoRequest (← r.bytes "data")
  | "EchoReply" => return echoReply (← r.bytes "data")
  | "Experimenter" => return experimenter (← r.bytes "data")
  | "FeaturesRequest" => return featuresRequest
  | "FeaturesReply" => return featuresReply (← SwitchFeatures.ofRecord? r)
  | "GetConfigRequest" => return getConfigRequest
  | "GetConfigReply" => return getConfigReply (← SwitchConfig.ofRecord? r)
  | "SetConfig" => return setConfig (← SwitchConfig.ofRecord? r)
  | "PacketIn" => return packetIn (← PacketIn.ofRecord? r)
  | "FlowRemoved" => return flowRemoved (← FlowRemoved.ofRecord? r)
  | "PortStatus" => return portStatus (← PortStatus.ofRecord? r)
  | "PacketOut" => return packetOut (← PacketOut.ofRecord? r)
  | "FlowMod" => return flowMod (← FlowMod.ofRecord? r)
  | "GroupMod" => return groupMod (← r.bytes "data")
  | "PortMod" => return portMod (← PortMod.ofRecord? r)
  | "MultipartRequest" => return multipartRequest (← MultipartRequest.ofRecord? r)
  | "MultipartReply" => return multipartReply (← MultipartReply.ofRecord? r)
  | "BarrierRequest" => return barrierRequest
  | "BarrierReply" => return barrierReply
  | _ => none

end Message

end Southbound
