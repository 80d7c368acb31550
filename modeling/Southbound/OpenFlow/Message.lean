import Southbound.OpenFlow.Flow
import Southbound.OpenFlow.MessageType
import Southbound.OpenFlow.Multipart

/-!
# Messages

The messages of the protocol, in one form for all versions. Matches, actions and instructions are
kept in the wire form of their version, and nothing here looks inside them.
-/

namespace Southbound

/-- Why a switch or a controller refuses a message. -/
structure ErrorMessage where
  kind : UInt16 := 0
  code : UInt16 := 0
  /-- The beginning of the refused message, or a reason in words. -/
  data : Bytes := []
deriving DecidableEq

namespace ErrorMessage

def text (e : ErrorMessage) : String := s!"error type {e.kind} code {e.code}"

/-- The class of errors about requests that make no sense. -/
def badRequest : UInt16 := 1

end ErrorMessage

/-- What a switch says about itself first of all. -/
structure SwitchFeatures where
  datapathId : UInt64 := 0
  numBuffers : UInt32 := 0
  numTables : UInt8 := 0
  /-- 0 on a main connection, and always in OpenFlow 1.0. -/
  auxiliaryId : UInt8 := 0
  capabilities : UInt32 := 0
  /-- The supported actions as a bitmap, in OpenFlow 1.0 only. -/
  actions : UInt32 := 0
  /-- The ports, in OpenFlow 1.0 only. -/
  ports : List Port := []
deriving DecidableEq

structure SwitchConfig where
  flags : UInt16 := 0
  /-- How much of a packet is sent along with a packet-in. -/
  missSendLength : UInt16 := 0
deriving DecidableEq

/-- A packet handed to the controller. -/
structure PacketIn where
  buffer : Option UInt32 := none
  totalLength : UInt16 := 0
  inPort : PortNumber := 0
  reason : UInt8 := 0
  /-- OpenFlow 1.3 only, as are the cookie and the match. -/
  table : UInt8 := 0
  cookie : UInt64 := 0
  flowMatch : FlowMatch := .all
  data : Bytes := []
deriving DecidableEq

/-- A packet for the switch to send. -/
structure PacketOut where
  buffer : Option UInt32 := none
  inPort : PortNumber := 0
  /-- The actions in wire form. -/
  actions : Bytes := []
  data : Bytes := []
deriving DecidableEq

inductive Message where
  /-- The versions of the bitmap element, none if the peer sent no such element. -/
  | hello (versions : List Version)
  | error (error : ErrorMessage)
  | echoRequest (data : Bytes)
  | echoReply (data : Bytes)
  | experimenter (data : Bytes)
  | featuresRequest
  | featuresReply (features : SwitchFeatures)
  | getConfigRequest
  | getConfigReply (config : SwitchConfig)
  | setConfig (config : SwitchConfig)
  | packetIn (packet : PacketIn)
  | flowRemoved (removed : FlowRemoved)
  | portStatus (status : PortStatus)
  | packetOut (packet : PacketOut)
  | flowMod (flow : FlowMod)
  | groupMod (data : Bytes)
  | portMod (mod : PortMod)
  | multipartRequest (request : MultipartRequest)
  | multipartReply (reply : MultipartReply)
  | barrierRequest
  | barrierReply
deriving DecidableEq

namespace Message

def type : Message → MessageType
  | hello _ => .hello
  | error _ => .error
  | echoRequest _ => .echoRequest
  | echoReply _ => .echoReply
  | experimenter _ => .experimenter
  | featuresRequest => .featuresRequest
  | featuresReply _ => .featuresReply
  | getConfigRequest => .getConfigRequest
  | getConfigReply _ => .getConfigReply
  | setConfig _ => .setConfig
  | packetIn _ => .packetIn
  | flowRemoved _ => .flowRemoved
  | portStatus _ => .portStatus
  | packetOut _ => .packetOut
  | flowMod _ => .flowMod
  | groupMod _ => .groupMod
  | portMod _ => .portMod
  | multipartRequest _ => .multipartRequest
  | multipartReply _ => .multipartReply
  | barrierRequest => .barrierRequest
  | barrierReply => .barrierReply

/-- The type, and for multipart messages and flow requests which of them. -/
def summary : Message → String
  | multipartRequest r => s!"MultipartReq({r.kind.label})"
  | multipartReply r => s!"MultipartResp({r.kind.label})"
  | flowMod f => s!"FlowMod({f.command.label})"
  | m => m.type.label

end Message

end Southbound
