import Southbound.Datapath.Basic

/-!
# Events

What listeners are told: messages of switches, and what happens to the switches themselves.
-/

namespace Southbound

/-- A message from a switch that answers no request. -/
structure MessageEvent where
  datapath : DatapathId
  /-- The connection it came in on. -/
  auxiliary : UInt8
  /-- The version negotiated on that connection. -/
  version : Version
  xid : Xid
  message : Message
deriving DecidableEq

inductive DatapathEventKind where
  /-- The handshake is done, and the datapath can be used. -/
  | connected
  /-- The initial flows are installed. -/
  | ready
  | disconnected
  /-- Another connection claimed the same id. -/
  | revoked
  | portAdded
  | portChanged
  | portRemoved
deriving DecidableEq

namespace DatapathEventKind

def all : List DatapathEventKind :=
  [connected, ready, disconnected, revoked, portAdded, portChanged, portRemoved]

def label : DatapathEventKind → String
  | connected => "Connected"
  | ready => "Ready"
  | disconnected => "Disconnected"
  | revoked => "Revoked"
  | portAdded => "PortAdded"
  | portChanged => "PortChanged"
  | portRemoved => "PortRemoved"

end DatapathEventKind

/-- Something that happened to a datapath. -/
structure DatapathEvent where
  kind : DatapathEventKind
  datapath : DatapathId
  /-- The datapath at that time, for all but port events. -/
  info : Option DatapathInfo := none
  /-- The port, for port events. -/
  port : Option Port := none
deriving DecidableEq

inductive Event where
  | message (event : MessageEvent)
  | datapath (event : DatapathEvent)
deriving DecidableEq

namespace Event

/-- The datapath an event is about. -/
def source : Event → DatapathId
  | message e => e.datapath
  | datapath e => e.datapath

/-- May the event be dropped when too many are waiting? Only messages may. -/
def isDroppable : Event → Bool
  | message _ => true
  | datapath _ => false

end Event

end Southbound
