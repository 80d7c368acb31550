import Southbound.OpenFlow.Version

/-!
# Message types

The kinds of OpenFlow messages, their number on the wire in each version, and the classes that
policy and correlation go by: who may originate one, which are replies, which change the state
of a switch. `ofWire?_toWire?` says that the number a version gives to a type leads back to it.
-/

namespace Southbound

/-- What a header's type byte stands for, the same for every version. -/
inductive MessageType where
  | hello
  | error
  | echoRequest
  | echoReply
  | experimenter
  | featuresRequest
  | featuresReply
  | getConfigRequest
  | getConfigReply
  | setConfig
  | packetIn
  | flowRemoved
  | portStatus
  | packetOut
  | flowMod
  | groupMod
  | portMod
  | tableMod
  | multipartRequest
  | multipartReply
  | barrierRequest
  | barrierReply
  | queueConfigRequest
  | queueConfigReply
  | roleRequest
  | roleReply
deriving DecidableEq

/-- Which side of a connection may originate a message. -/
inductive Direction where
  | symmetric
  | controllerToSwitch
  | switchToController
deriving DecidableEq

def Direction.label : Direction → String
  | symmetric => "Symmetric"
  | controllerToSwitch => "ControllerToSwitch"
  | switchToController => "SwitchToController"

namespace MessageType

/-- Every message type once. -/
def all : List MessageType :=
  [hello, error, echoRequest, echoReply, experimenter, featuresRequest, featuresReply,
    getConfigRequest, getConfigReply, setConfig, packetIn, flowRemoved, portStatus, packetOut,
    flowMod, groupMod, portMod, tableMod, multipartRequest, multipartReply, barrierRequest,
    barrierReply, queueConfigRequest, queueConfigReply, roleRequest, roleReply]

/-- The types of a version in the order of their numbers. OpenFlow 1.0 lacks groups, table
configuration and roles, so its numbers shift. -/
def numbering (v : Version) : List MessageType :=
  if v = Version.v10 then
    [hello, error, echoRequest, echoReply, experimenter, featuresRequest, featuresReply,
      getConfigRequest, getConfigReply, setConfig, packetIn, flowRemoved, portStatus, packetOut,
      flowMod, portMod, multipartRequest, multipartReply, barrierRequest, barrierReply,
      queueConfigRequest, queueConfigReply]
  else if v = Version.v13 then all
  else []

/-- The type with number `n` in version `v`. -/
def ofWire? (v : Version) (n : UInt8) : Option MessageType := (numbering v)[n.toNat]?

/-- The number of a type in version `v`, if that version has it. -/
def toWire? (v : Version) (t : MessageType) : Option UInt8 :=
  ((numbering v).findIdx? (· = t)).map UInt8.ofNat

def direction : MessageType → Direction
  | hello | error | echoRequest | echoReply | experimenter => .symmetric
  | featuresReply | getConfigReply | packetIn | flowRemoved | portStatus | multipartReply
  | barrierReply | queueConfigReply | roleReply => .switchToController
  | featuresRequest | getConfigRequest | setConfig | packetOut | flowMod | groupMod | portMod
  | tableMod | multipartRequest | barrierRequest | queueConfigRequest | roleRequest =>
    .controllerToSwitch

/-- Answers to a request. A notification is no reply, even when its transaction id happens to be
that of an outstanding request. -/
def isReply : MessageType → Bool
  | error | echoReply | featuresReply | getConfigReply | multipartReply | barrierReply
  | queueConfigReply | roleReply => true
  | _ => false

/-- Messages that change the forwarding or configuration state of a switch; only its master
controller may send them. -/
def isMutating : MessageType → Bool
  | setConfig | packetOut | flowMod | groupMod | portMod | tableMod => true
  | _ => false

/-- The name written in texts. -/
def label : MessageType → String
  | hello => "Hello"
  | error => "Error"
  | echoRequest => "EchoReq"
  | echoReply => "EchoResp"
  | experimenter => "Experimenter"
  | featuresRequest => "FeaturesReq"
  | featuresReply => "FeaturesResp"
  | getConfigRequest => "GetConfigReq"
  | getConfigReply => "GetConfigResp"
  | setConfig => "SetConfig"
  | packetIn => "PacketIn"
  | flowRemoved => "FlowRemoved"
  | portStatus => "PortStatus"
  | packetOut => "PacketOut"
  | flowMod => "FlowMod"
  | groupMod => "GroupMod"
  | portMod => "PortMod"
  | tableMod => "TableMod"
  | multipartRequest => "MultipartReq"
  | multipartReply => "MultipartResp"
  | barrierRequest => "BarrierReq"
  | barrierReply => "BarrierResp"
  | queueConfigRequest => "QueueGetConfigReq"
  | queueConfigReply => "QueueGetConfigResp"
  | roleRequest => "RoleReq"
  | roleReply => "RoleResp"

/-- No version has more message types than 1.3. -/
theorem numbering_length_le (v : Version) : (numbering v).length ≤ 26 := by
  unfold numbering
  split
  · decide
  · split <;> decide

/-- The number a version gives to a type leads back to it. -/
theorem ofWire?_toWire? {v : Version} {t : MessageType} {n : UInt8} (h : toWire? v t = some n) :
    ofWire? v n = some t := by
  obtain ⟨i, hi, rfl⟩ := Option.map_eq_some_iff.1 h
  obtain ⟨hlt, ht, _⟩ := List.findIdx?_eq_some_iff_getElem.1 hi
  have hle := numbering_length_le v
  have hmod : (UInt8.ofNat i).toNat = i := by
    rw [UInt8.toNat_ofNat']
    omega
  rw [ofWire?, hmod, List.getElem?_eq_getElem hlt]
  simpa using ht

end MessageType

end Southbound
