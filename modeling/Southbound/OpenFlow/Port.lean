import Southbound.Bytes.BigEndian

/-!
# Switch ports

The description of a port, the notification that one was added, changed or removed, and the
request that changes its administrative state.
-/

namespace Southbound

/-- A hardware address. -/
structure MacAddress where
  b0 : UInt8 := 0
  b1 : UInt8 := 0
  b2 : UInt8 := 0
  b3 : UInt8 := 0
  b4 : UInt8 := 0
  b5 : UInt8 := 0
deriving DecidableEq

namespace MacAddress

def toBytes (a : MacAddress) : Bytes := [a.b0, a.b1, a.b2, a.b3, a.b4, a.b5]

def ofBytes? : Bytes → Option MacAddress
  | [b0, b1, b2, b3, b4, b5] => some ⟨b0, b1, b2, b3, b4, b5⟩
  | _ => none

@[simp] theorem length_toBytes (a : MacAddress) : a.toBytes.length = 6 := rfl

end MacAddress

/-- The number of a port, 32 bits wide in every version. -/
abbrev PortNumber := UInt32

namespace PortNumber

/-- Stands for no port in particular. -/
def any : PortNumber := 0xffffffff

end PortNumber

/-- A port as its switch describes it. -/
structure Port where
  number : PortNumber := 0
  address : MacAddress := {}
  name : String := ""
  /-- Administrative settings; bit 0 means shut down. -/
  config : UInt32 := 0
  /-- Observed state; bit 0 means no link. -/
  state : UInt32 := 0
  current : UInt32 := 0
  advertised : UInt32 := 0
  supported : UInt32 := 0
  peer : UInt32 := 0
  /-- Not carried by OpenFlow 1.0. -/
  currentSpeed : UInt32 := 0
  /-- Not carried by OpenFlow 1.0. -/
  maxSpeed : UInt32 := 0
deriving DecidableEq

namespace Port

/-- Not shut down by configuration. -/
def isEnabled (p : Port) : Bool := p.config &&& 1 == 0

def isLinkUp (p : Port) : Bool := p.state &&& 1 == 0

end Port

/-- What happened to a port. -/
inductive PortReason where
  | add
  | delete
  | modify
deriving DecidableEq

namespace PortReason

def ofWire? (n : UInt8) : Option PortReason :=
  if n = 0 then some add else if n = 1 then some delete else if n = 2 then some modify else none

def toWire : PortReason → UInt8
  | add => 0
  | delete => 1
  | modify => 2

def label : PortReason → String
  | add => "Add"
  | delete => "Delete"
  | modify => "Modify"

/-- A reason is read back from its number. -/
@[simp] theorem ofWire?_toWire (r : PortReason) : ofWire? r.toWire = some r := by
  cases r <;> rfl

end PortReason

/-- The notification that a port was added, removed or changed. -/
structure PortStatus where
  reason : PortReason
  port : Port
deriving DecidableEq

/-- The request to change a port's settings. -/
structure PortMod where
  number : PortNumber := 0
  address : MacAddress := {}
  config : UInt32 := 0
  /-- The bits of `config` that are to change. -/
  mask : UInt32 := 0
  advertise : UInt32 := 0
deriving DecidableEq

namespace PortMod

/-- Brings a port up or shuts it down, and leaves its other settings alone. -/
def setEnabled (p : Port) (enable : Bool) : PortMod where
  number := p.number
  address := p.address
  config := if enable then 0 else 1
  mask := 1
  advertise := 0

end PortMod

end Southbound
